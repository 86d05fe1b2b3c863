import LinkedRaces.Proofs.Rdf.Directory

/-!
The host of an IRI under resolution. A reference without a scheme is put behind some beginning of
the base, which has the authority of the base in it if it goes further than the two slashes in front
of the authority. The directory of a base goes no further where no slash follows the authority.
-/

namespace LinkedRaces

namespace Iri

def endsAuthority (c : Char) : Bool := c == '/' || c == '?' || c == '#'

def EndsAuthority (rest : List Char) : Prop := ∀ c ∈ rest.head?, endsAuthority c

instance : DecidablePred EndsAuthority
  | [] => isTrue nofun
  | c :: _ => decidable_of_iff (endsAuthority c) (by simp [EndsAuthority])

theorem EndsAuthority.append {front rest reference : List Char} (h : EndsAuthority rest)
    (hfront : front <+: rest) (hnil : front = [] → EndsAuthority reference) :
    EndsAuthority (front ++ reference) := by
  cases front with
  | nil => exact hnil rfl
  | cons c front =>
    obtain ⟨more, rfl⟩ := hfront
    exact h

structure Site where
  scheme : List Char
  authority : List Char
  isScheme : IsScheme (scheme ++ [':'])
  authority_plain : authority.all (!endsAuthority ·)

namespace Site

variable (s : Site) {rest reference : List Char}

def chars : List Char := s.scheme ++ "://".toList ++ s.authority

def Hosts (i : Iri) : Prop := ∃ rest, i.text.toList = s.chars ++ rest ∧ EndsAuthority rest

instance (i : Iri) : Decidable (s.Hosts i) :=
  decidable_of_iff (∃ rest ∈ Text.dropBeginning? s.chars i.text.toList, EndsAuthority rest)
    (by simp [Hosts, Text.dropBeginning?_eq_some_iff])

theorem notMem_authority {c : Char} (hc : endsAuthority c) : c ∉ s.authority := by
  intro hmem
  have hplain := List.all_eq_true.1 s.authority_plain c hmem
  rw [hc] at hplain
  cases hplain

theorem notMem_scheme {c : Char} (hc : isSchemeChar c = false) : c ∉ s.scheme := by
  obtain ⟨d, name, heq, hd, hname⟩ := s.isScheme
  rw [List.append_cancel_right heq]
  exact notMem_of_not_isSchemeChar hc hd hname

theorem withoutFragment_append (rest : List Char) :
    (s.chars ++ rest).takeWhile (· != '#') = s.chars ++ rest.takeWhile (· != '#') := by
  have hscheme : '#' ∉ s.scheme := s.notMem_scheme (by decide)
  have hauthority : '#' ∉ s.authority := s.notMem_authority (by decide)
  exact Text.takeWhile_append_of_notMem (by simp [chars, hscheme, hauthority]) rest

theorem origin?_append (rest : List Char) :
    origin? (s.chars ++ rest) = some (s.chars ++ rest.takeWhile (· != '/')) := by
  have hcolon : ':' ∉ s.scheme := s.notMem_scheme (by decide)
  have hauthority : '/' ∉ s.authority := s.notMem_authority (by decide)
  have hsplit : Text.splitAt? (':' :: "//".toList)
      (s.scheme ++ ':' :: ("//".toList ++ (s.authority ++ rest))) =
        some (s.scheme, s.authority ++ rest) := Text.splitAt?_append_of_notMem hcolon _
  have hchars : s.chars ++ rest = s.scheme ++ ':' :: ("//".toList ++ (s.authority ++ rest)) := by
    simp [chars]
  rw [hchars, origin?, show "://".toList = ':' :: "//".toList from rfl, hsplit, Option.map_some]
  simp [chars, Text.takeWhile_append_of_notMem hauthority]

theorem directory_of_notMem (h : '/' ∉ rest) :
    directory (s.chars ++ rest) = s.scheme ++ "://".toList := by
  have hafter : '/' ∉ s.authority ++ rest := by
    rw [List.mem_append, not_or]
    exact ⟨s.notMem_authority (by decide), h⟩
  have hdirectory := directory_append hafter (s.scheme ++ [':', '/'])
  simpa [chars] using hdirectory

def Rooted (reference : List Char) : Prop := ∀ c ∈ reference.head?, c = '/' ∨ c = '#'

instance : DecidablePred Rooted
  | [] => isTrue nofun
  | c :: _ => decidable_of_iff (c = '/' ∨ c = '#') (by simp [Rooted])

theorem exists_front (hslash : '/' ∈ rest ∨ Rooted reference) :
    ∃ more, front (s.chars ++ rest) reference = s.chars ++ more ∧ more <+: rest ∧
      (more = [] → EndsAuthority reference) := by
  unfold front
  split
  · exact ⟨rest, rfl, List.prefix_rfl, fun _ => nofun⟩
  · refine ⟨_, s.withoutFragment_append rest, List.takeWhile_prefix _, fun _ => ?_⟩
    exact fun c hc => Option.some.inj hc ▸ rfl
  · refine ⟨_, by rw [s.origin?_append, Option.getD_some], List.takeWhile_prefix _, fun _ => ?_⟩
    exact fun c hc => Option.some.inj hc ▸ rfl
  next hempty hfragment hpath =>
    have hmem : '/' ∈ rest := by
      refine hslash.resolve_right fun hrooted => ?_
      obtain ⟨c, more, rfl⟩ := List.exists_cons_of_ne_nil hempty
      rcases hrooted c rfl with rfl | rfl
      · exact hpath more rfl
      · exact hfragment more rfl
    refine ⟨directory rest, directory_append_of_mem hmem s.chars, prefix_directory rest, ?_⟩
    intro hnil
    exact absurd (directory_eq_nil_iff.1 hnil) (List.ne_nil_of_mem hmem)

theorem front_of_notMem (hslash : '/' ∉ rest) (hrooted : ¬ Rooted reference) :
    front (s.chars ++ rest) reference = s.scheme ++ "://".toList := by
  unfold front
  split
  · exact absurd nofun hrooted
  · exact absurd (fun c hc => .inr (Option.some.inj hc).symm) hrooted
  · exact absurd (fun c hc => .inl (Option.some.inj hc).symm) hrooted
  · exact s.directory_of_notMem hslash

/-- A reference without a scheme leads to the host of the base if a slash follows the authority, or
if it is empty, a path from the root or a fragment. Otherwise the two slashes in front of the
authority are taken for a directory, and what the reference starts with is the host. -/
theorem hosts_resolve_iff {base : Iri} (hbase : base.text.toList = s.chars ++ rest)
    (hrest : EndsAuthority rest) {reference : String}
    (hreference : hasScheme reference.toList = false) :
    (s.Hosts (base.resolve reference) ↔
      '/' ∈ rest ∨ Rooted reference.toList ∨
        ∃ more, reference.toList = s.authority ++ more ∧ EndsAuthority more) ∧
    ('/' ∉ rest → ¬ Rooted reference.toList →
      (base.resolve reference).text.toList =
        s.scheme ++ "://".toList ++ reference.toList) := by
  have hresolve : (base.resolve reference).text.toList =
      front (s.chars ++ rest) reference.toList ++ reference.toList := by
    rw [toList_resolve, hbase, resolveChars_eq_front hreference]
  have hlost (hslash : '/' ∉ rest) (hrooted : ¬ Rooted reference.toList) :
      (base.resolve reference).text.toList = s.scheme ++ "://".toList ++ reference.toList := by
    rw [hresolve, s.front_of_notMem hslash hrooted]
  refine ⟨?_, hlost⟩
  by_cases h : '/' ∈ rest ∨ Rooted reference.toList
  · obtain ⟨more, hfront, hprefix, hnil⟩ := s.exists_front h
    refine iff_of_true ⟨more ++ reference.toList, ?_, hrest.append hprefix hnil⟩ ?_
    · rw [hresolve, hfront, List.append_assoc]
    · exact or_assoc.1 (.inl h)
  · obtain ⟨hslash, hrooted⟩ := not_or.1 h
    simp only [Hosts, hlost hslash hrooted, chars, List.append_assoc, List.append_cancel_left_eq,
      hslash, hrooted, false_or]

def exampleSite : Site where
  scheme := "http".toList
  authority := "example.org".toList
  isScheme := ⟨'h', "ttp".toList, rfl, by decide, by decide⟩
  authority_plain := by decide

theorem hosts_resolve_query :
    EndsAuthority "?path=/a".toList ∧ hasScheme "b".toList = false ∧
      exampleSite.Hosts ((⟨"http://example.org?path=/a"⟩ : Iri).resolve "b") := by
  have hbase : (⟨"http://example.org?path=/a"⟩ : Iri).text.toList =
      exampleSite.chars ++ "?path=/a".toList := by decide +kernel
  refine ⟨by decide, by decide, ?_⟩
  exact (exampleSite.hosts_resolve_iff hbase (by decide) (by decide)).1.2 (.inl (by decide))

/-- A base without a path. -/
theorem host_replaced :
    exampleSite.Hosts ⟨"http://example.org"⟩ ∧ hasScheme "sparql".toList = false ∧
      ¬ "//".toList <+: "sparql".toList ∧
      (⟨"http://example.org"⟩ : Iri).resolve "sparql" = ⟨"http://sparql"⟩ ∧
      ¬ exampleSite.Hosts ⟨"http://sparql"⟩ := by
  decide +kernel

end Site

end Iri

end LinkedRaces
