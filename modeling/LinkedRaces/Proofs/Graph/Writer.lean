import LinkedRaces.Graph.Writer
import LinkedRaces.Proofs.Graph.Writable
import LinkedRaces.Proofs.Grouping
import Mathlib.Data.List.Forall2

/-!
When a graph is written. Turtle, JSON-LD and N-Triples refuse a graph exactly if one of its triples
fails the check; nothing that comes after the check can fail.
-/

namespace LinkedRaces

section Traversal

variable {ε α β : Type}

theorem exists_bind_eq_ok {x : Except ε α} {f : α → Except ε β} :
    (∃ b, (x >>= f) = .ok b) ↔ ∃ a, x = .ok a ∧ ∃ b, f a = .ok b := by
  cases x <;> simp [bind, Except.bind]

theorem exists_mapM_eq_ok {f : α → Except ε β} {xs : List α} :
    (∃ ys, xs.mapM f = .ok ys) ↔ ∀ x ∈ xs, ∃ y, f x = .ok y := by
  induction xs with
  | nil => simp [pure, Except.pure]
  | cons x xs ih =>
    rw [List.mapM_cons, exists_bind_eq_ok, List.forall_mem_cons, ← ih]
    constructor
    · rintro ⟨y, hy, hrest⟩
      obtain ⟨ys, hys, -⟩ := exists_bind_eq_ok.1 hrest
      exact ⟨⟨y, hy⟩, ys, hys⟩
    · rintro ⟨⟨y, hy⟩, ys, hys⟩
      exact ⟨y, hy, exists_bind_eq_ok.2 ⟨ys, hys, y :: ys, rfl⟩⟩

theorem mapM_eq_ok {f : α → Except ε β} {g : α → β} {xs : List α}
    (h : ∀ x ∈ xs, f x = .ok (g x)) : xs.mapM f = .ok (xs.map g) := by
  induction xs with
  | nil => rfl
  | cons x xs ih =>
    obtain ⟨hx, hxs⟩ := List.forall_mem_cons.1 h
    rw [List.mapM_cons, hx, ih hxs]
    rfl

theorem forall₂_of_mapM_eq_ok {f : α → Except ε β} {xs : List α} {ys : List β}
    (h : xs.mapM f = .ok ys) : List.Forall₂ (fun x y => f x = .ok y) xs ys := by
  induction xs generalizing ys with
  | nil =>
    cases h
    exact .nil
  | cons x xs ih =>
    rw [List.mapM_cons] at h
    obtain ⟨y, hy, h⟩ := Scanner.bind_eq_ok.1 h
    obtain ⟨rest, hrest, h⟩ := Scanner.bind_eq_ok.1 h
    cases h
    exact .cons hy (ih hrest)

theorem mapM_eq_some {f : α → Option β} {xs : List α} {ys : List β}
    (h : List.Forall₂ (fun x y => f x = some y) xs ys) : xs.mapM f = some ys := by
  induction h with
  | nil => rfl
  | cons hx _ ih => simp [List.mapM_cons, hx, ih]

theorem exists_mapM_perm {κ : Type} {read : β → Option (List α)} {gs : List (κ × List α)}
    {items : List β}
    (h : List.Forall₂ (fun g item => ∃ xs, read item = some xs ∧ xs.Perm g.2) gs items) :
    ∃ xss, items.mapM read = some xss ∧ xss.flatten.Perm (gs.flatMap Prod.snd) := by
  induction h with
  | nil => exact ⟨[], rfl, .nil⟩
  | cons hitem _ ih =>
    obtain ⟨xs, hxs, hperm⟩ := hitem
    obtain ⟨xss, hxss, hperms⟩ := ih
    exact ⟨xs :: xss, by simp [List.mapM_cons, hxs, hxss], hperm.append hperms⟩

end Traversal

namespace JsonLd

variable {t : Namespaces}

theorem exists_objectValue {o : Term} (h : o.check = .ok ()) : ∃ v, objectValue t o = .ok v := by
  cases o with
  | iri i => exact ⟨_, rfl⟩
  | literal l => exact ⟨_, rfl⟩
  | var name => simp [Term.check] at h

theorem exists_values {xs : List Triple} (h : ∀ x ∈ xs, x.check = .ok ()) :
    ∃ values, xs.mapM (fun x => objectValue t x.object) = .ok values :=
  exists_mapM_eq_ok.2 fun x hx => exists_objectValue (Triple.check_eq_ok_iff.1 (h x hx)).2.2

theorem exists_node {xs : List Triple} (h : ∀ x ∈ xs, x.check = .ok ()) (subject : Iri) :
    ∃ v, node t subject xs = .ok v := by
  -- the groups only hold objects of the given triples
  have hgroup : ∀ g ∈ groupBy (fun x => compact t x.predicate)
      (xs.filter fun x => x.class?.isNone), ∀ x ∈ g.2, x.check = .ok () :=
    fun g hg x hx => h x (List.mem_of_mem_filter (mem_of_mem_groupBy hg hx))
  obtain ⟨properties, hproperties⟩ := exists_mapM_eq_ok.2 fun g hg =>
    exists_bind_eq_ok.2 <| (exists_values (t := t) (hgroup g hg)).imp fun values hvalues =>
      ⟨hvalues, (g.1, collapse values), rfl⟩
  exact exists_bind_eq_ok.2 ⟨properties, hproperties, _, rfl⟩

theorem exists_write_iff {ts : List Triple} :
    (∃ body, write t ts = .ok body) ↔ ∀ x ∈ ts, x.check = .ok () := by
  rw [← checkAll_eq_ok_iff]
  constructor
  · rintro ⟨body, hbody⟩
    obtain ⟨_, hdocument, -⟩ := exists_bind_eq_ok.1 ⟨body, hbody⟩
    obtain ⟨_, hcheck, -⟩ := exists_bind_eq_ok.1 ⟨_, hdocument⟩
    exact hcheck
  · intro hcheck
    have hgroup : ∀ g ∈ groupBy Triple.subject ts, ∀ x ∈ g.2, x.check = .ok () :=
      fun g hg x hx => checkAll_eq_ok_iff.1 hcheck x (mem_of_mem_groupBy hg hx)
    obtain ⟨graph, hgraph⟩ := exists_mapM_eq_ok.2 fun g hg =>
      exists_node (t := t) (hgroup g hg) g.1
    have hdocument : ∃ v, document t ts = .ok v :=
      exists_bind_eq_ok.2 ⟨(), hcheck, exists_bind_eq_ok.2 ⟨graph, hgraph, _, rfl⟩⟩
    obtain ⟨v, hv⟩ := hdocument
    exact exists_bind_eq_ok.2 ⟨v, hv, _, rfl⟩

end JsonLd

namespace Turtle

theorem exists_write_iff {t : Namespaces} {ts : List Triple} :
    (∃ body, write t ts = .ok body) ↔ ∀ x ∈ ts, x.check = .ok () := by
  rw [← checkAll_eq_ok_iff, write, exists_bind_eq_ok]
  constructor
  · rintro ⟨_, hcheck, -⟩
    exact hcheck
  · intro hcheck
    exact ⟨(), hcheck, _, rfl⟩

end Turtle

namespace NTriples

theorem exists_line_iff {t : Triple} : (∃ text, line t = .ok text) ↔ t.check = .ok () := by
  rw [line, exists_bind_eq_ok]
  exact ⟨fun ⟨_, hcheck, _⟩ => hcheck, fun hcheck => ⟨(), hcheck, _, rfl⟩⟩

theorem exists_write_iff {ts : List Triple} :
    (∃ body, write ts = .ok body) ↔ ∀ x ∈ ts, x.check = .ok () := by
  simp only [← exists_line_iff, ← exists_mapM_eq_ok, write, exists_bind_eq_ok]
  exact ⟨fun ⟨ls, hls, _⟩ => ⟨ls, hls⟩, fun ⟨ls, hls⟩ => ⟨ls, hls, _, rfl⟩⟩

end NTriples

theorem exists_writeGraph_iff {t : Namespaces} {ts : List Triple} {format : GraphFormat}
    (h : format ≠ .rdfXml) :
    (∃ body, writeGraph t ts format = .ok body) ↔ ∀ x ∈ ts, x.check = .ok () := by
  cases format with
  | turtle => exact Turtle.exists_write_iff
  | rdfXml => exact absurd rfl h
  | jsonLd => exact JsonLd.exists_write_iff
  | nTriples => exact NTriples.exists_write_iff

end LinkedRaces
