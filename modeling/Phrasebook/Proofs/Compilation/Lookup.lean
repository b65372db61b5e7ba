import Phrasebook.Proofs.Compilation.Coverage

/-!
# Names of messages

A message of a compiled catalog is found by its identifier and by keys that give its identifier.
Identifiers and keys share one namespace, and an identifier goes first. So a key finds the message
of its own section unless it is also the identifier that another key gives; then it finds the
message of that other key.
-/

namespace Phrasebook

/-- Sections of which one has for its key the identifier that the other key gives. -/
def Sections.aliased : Sections := [
  ⟨"menu.open", [⟨"en", "Open", 2, "menu.ini"⟩]⟩,
  ⟨"menu__open", [⟨"en", "Open the menu", 4, "menu.ini"⟩]⟩]

namespace Catalog

variable {c : Catalog} {m m' : Message} {name : String}

section Sorted

variable (hsorted : c.messages.Pairwise (·.identifier < ·.identifier))
include hsorted

/-- Messages with one identifier are one message. -/
theorem eq_of_identifier_eq (hm : m ∈ c.messages) (hm' : m' ∈ c.messages)
    (h : m.identifier = m'.identifier) : m = m' := by
  have hnodup : (c.messages.map Message.identifier).Nodup :=
    List.pairwise_map.mpr (hsorted.imp fun hlt => ne_of_lt hlt)
  exact List.inj_on_of_nodup_map hnodup hm hm' h

theorem message?_eq_some_iff :
    c.message? name = some m ↔ m ∈ c.messages ∧ m.identifier = name := by
  constructor
  · exact mem_of_message?
  · rintro ⟨hm, rfl⟩
    obtain ⟨m', hm'⟩ := exists_message? (List.mem_map_of_mem hm)
    obtain ⟨hmem, hidentifier⟩ := mem_of_message? hm'
    rw [hm', eq_of_identifier_eq hsorted hmem hm hidentifier]

theorem message?_eq_none_iff : c.message? name = none ↔ name ∉ c.identifiers := by
  rw [identifiers, List.mem_map, Option.eq_none_iff_forall_ne_some]
  simp only [ne_eq, message?_eq_some_iff hsorted, not_exists]

/-- A name resolves to the message with this identifier. If there is none, it resolves to the
message with the identifier that it gives as a key. -/
theorem resolve_eq_ok_iff : c.resolve name = .ok m ↔ m ∈ c.messages ∧
    (m.identifier = name ∨ name ∉ c.identifiers ∧ m.identifier = Key.identifier name) := by
  have hget : c.resolve name = .ok m ↔ c.get? name = some m := by
    rw [resolve]
    cases c.get? name <;> simp
  rw [hget, get?, ← message?_eq_none_iff hsorted]
  cases hname : c.message? name with
  | some m' =>
      obtain ⟨hm', rfl⟩ := (message?_eq_some_iff hsorted).mp hname
      constructor
      · rintro ⟨⟩
        exact ⟨hm', .inl rfl⟩
      · rintro ⟨hm, hidentifier | ⟨hnone, -⟩⟩
        · rw [eq_of_identifier_eq hsorted hm hm' hidentifier]
        · cases hnone
  | none =>
      have habsent := (message?_eq_none_iff hsorted).mp hname
      rw [message?_eq_some_iff hsorted]
      constructor
      · rintro ⟨hm, hidentifier⟩
        exact ⟨hm, .inr ⟨rfl, hidentifier⟩⟩
      · rintro ⟨hm, rfl | ⟨-, hidentifier⟩⟩
        · exact absurd (List.mem_map_of_mem hm) habsent
        · exact ⟨hm, hidentifier⟩

end Sorted

/-- A catalog contains the names that resolve. -/
theorem contains_iff_resolve : c.contains name = true ↔ ∃ m, c.resolve name = .ok m := by
  rw [contains, resolve]
  cases c.get? name <;> simp

section Compiled

variable {sections : Sections} {config : Config} (h : compile sections config = .ok c)
include h

/-- A section becomes a message that has the identifier of its key. -/
theorem exists_ofSection {s : Section} (hs : s ∈ sections) :
    ∃ m ∈ c.messages, Message.ofSection s = .ok m ∧ m.identifier = Key.identifier s.key := by
  obtain ⟨m, hm, hreads⟩ := exists_mem_of_reads h hs
  exact ⟨m, hm, Message.ofSection_eq_ok_iff.mpr hreads, hreads.identifier⟩

/-- The identifiers of a compiled catalog are those that the keys of its sections give. -/
theorem mem_identifiers_iff : name ∈ c.identifiers ↔
    ∃ s ∈ sections, Key.identifier s.key = name := by
  constructor
  · intro hname
    obtain ⟨m, hm, rfl⟩ := List.mem_map.mp hname
    obtain ⟨s, hs, hreads⟩ := exists_reads_of_mem h hm
    exact ⟨s, hs, hreads.identifier.symm⟩
  · rintro ⟨s, hs, rfl⟩
    obtain ⟨m, hm, -, hidentifier⟩ := exists_ofSection h hs
    exact hidentifier ▸ List.mem_map_of_mem hm

/-- Sections whose keys give one identifier have one key. -/
theorem key_eq_of_identifier_eq {s s' : Section} (hs : s ∈ sections) (hs' : s' ∈ sections)
    (he : Key.identifier s.key = Key.identifier s'.key) : s.key = s'.key :=
  (compilable_of_compile h).identifiers (List.mem_map_of_mem hs) (List.mem_map_of_mem hs') he

/-- A key resolves to the message of its section exactly if it is not the identifier that another
key gives. -/
theorem resolve_key_iff {s : Section} (hs : s ∈ sections) (hm : m ∈ c.messages)
    (hidentifier : m.identifier = Key.identifier s.key) : c.resolve s.key = .ok m ↔
      ∀ s' ∈ sections, s'.key ≠ s.key → Key.identifier s'.key ≠ s.key := by
  rw [resolve_eq_ok_iff (reads_of_compile h).sorted, mem_identifiers_iff h, hidentifier]
  constructor
  · rintro ⟨-, hself | ⟨habsent, -⟩⟩ s' hs' hne he
    · exact hne (key_eq_of_identifier_eq h hs' hs (he.trans hself.symm))
    · exact habsent ⟨s', hs', he⟩
  · intro hothers
    refine ⟨hm, ?_⟩
    by_cases hself : Key.identifier s.key = s.key
    · exact .inl hself
    · refine .inr ⟨?_, rfl⟩
      rintro ⟨s', hs', he⟩
      by_cases hkey : s'.key = s.key
      · exact hself (hkey ▸ he)
      · exact hothers s' hs' hkey he

/-- Every identifier resolves to its message. The key of a section resolves to the message that the
section becomes exactly if it is not the identifier that another key gives, and otherwise to the
message of that key. A name that is no identifier resolves exactly if it gives one as a key, to the
message with this identifier. -/
theorem resolve_identifier_or_key :
    (∀ m ∈ c.messages, c.resolve m.identifier = .ok m) ∧
    (∀ s ∈ sections, ∃ m ∈ c.messages, Message.ofSection s = .ok m ∧
      (c.resolve s.key = .ok m ↔
        ∀ s' ∈ sections, s'.key ≠ s.key → Key.identifier s'.key ≠ s.key) ∧
      ∀ s' ∈ sections, s'.key ≠ s.key → Key.identifier s'.key = s.key →
        ∃ m' ∈ c.messages, Message.ofSection s' = .ok m' ∧ c.resolve s.key = .ok m') ∧
    ∀ name, name ∉ c.identifiers →
      ((∃ m, c.resolve name = .ok m) ↔ Key.identifier name ∈ c.identifiers) ∧
      (c.contains name = true ↔ Key.identifier name ∈ c.identifiers) ∧
      ∀ m, c.resolve name = .ok m → m.identifier = Key.identifier name := by
  have hsorted := (reads_of_compile h).sorted
  refine ⟨?_, ?_, ?_⟩
  · intro m hm
    exact (resolve_eq_ok_iff hsorted).mpr ⟨hm, .inl rfl⟩
  · intro s hs
    obtain ⟨m, hm, hsection, hidentifier⟩ := exists_ofSection h hs
    refine ⟨m, hm, hsection, resolve_key_iff h hs hm hidentifier, ?_⟩
    intro s' hs' _ he
    obtain ⟨m', hm', hsection', hidentifier'⟩ := exists_ofSection h hs'
    exact ⟨m', hm', hsection', (resolve_eq_ok_iff hsorted).mpr ⟨hm', .inl (hidentifier'.trans he)⟩⟩
  · intro name hname
    have hresolve (m : Message) : c.resolve name = .ok m ↔
        m ∈ c.messages ∧ m.identifier = Key.identifier name := by
      rw [resolve_eq_ok_iff hsorted]
      constructor
      · rintro ⟨hm, rfl | ⟨-, he⟩⟩
        · exact absurd (List.mem_map_of_mem hm) hname
        · exact ⟨hm, he⟩
      · rintro ⟨hm, he⟩
        exact ⟨hm, .inr ⟨hname, he⟩⟩
    have hexists : (∃ m, c.resolve name = .ok m) ↔ Key.identifier name ∈ c.identifiers := by
      simp only [hresolve, identifiers, List.mem_map]
    exact ⟨hexists, contains_iff_resolve.trans hexists, fun m hm => ((hresolve m).mp hm).2⟩

end Compiled

/-- The key that is an identifier finds the section of the other key. Its own section is found under
its identifier, and under a name that is neither. -/
theorem resolve_aliased_identifier_or_key : ∃ c, compile Sections.aliased = .ok c ∧
    (∃ m, Message.ofSection ⟨"menu.open", [⟨"en", "Open", 2, "menu.ini"⟩]⟩ = .ok m ∧
      c.resolve "menu__open" = .ok m) ∧
    (∀ m ∈ c.messages, c.resolve m.identifier = .ok m) ∧
    c.contains "MenuOpen" = true := by
  have hshape : (compile Sections.aliased).toOption.map identifiers =
      some ["menu__open", "menu_open"] := by
    decide +kernel
  cases h : compile Sections.aliased with
  | error e =>
      rw [h] at hshape
      cases hshape
  | ok c =>
      rw [h] at hshape
      have hidentifiers : c.identifiers = ["menu__open", "menu_open"] := Option.some.inj hshape
      obtain ⟨hidentifier, hkey, hother⟩ := resolve_identifier_or_key h
      obtain ⟨-, -, -, -, halias⟩ := hkey ⟨"menu__open", _⟩ (List.mem_cons_of_mem _ (.head _))
      obtain ⟨m, -, hsection, hresolve⟩ :=
        halias ⟨"menu.open", _⟩ (.head _) (by decide) (by decide)
      refine ⟨c, rfl, ⟨m, hsection, hresolve⟩, hidentifier, ?_⟩
      refine (hother "MenuOpen" ?_).2.1.mpr ?_
      · rw [hidentifiers]
        decide
      · rw [hidentifiers]
        decide

end Catalog

end Phrasebook
