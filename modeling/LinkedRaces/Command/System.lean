import LinkedRaces.Failure
import LinkedRaces.Http.Address
import LinkedRaces.Http.Message

/-! What commands need of the system that they run on. -/

namespace LinkedRaces

structure System (m : Type → Type) where
  readFile : String → m (Except FileFault String)
  hasPath : String → m Bool
  writeFile : String → String → m Bool
  environment : String → m (Option String)
  settingsDirectory? : m (Option String)
  readInput : m (Option String)
  print : String → m Unit
  report : String → m Unit
  /-- Answers the requests that come to an address until it is stopped; false if it cannot begin. -/
  listen : Address → (Http.Request → Http.Response) → m Bool

end LinkedRaces
