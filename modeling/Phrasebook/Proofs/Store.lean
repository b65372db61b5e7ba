import Mathlib.Data.List.Basic
import Phrasebook.Build

/-!
# What writing changes in a store

Making directories changes no file: each attempt makes at most one directory, at a place that was
empty, and a sequence of attempts does no more than its attempts do. Writing a file changes what
stands at the end of its path and nothing else. That place is no directory on the way of the path,
so the path leads to the file afterwards, too.
-/

namespace Phrasebook

namespace Store

/-- A store becomes another one by new directories at empty places. -/
structure Grows (old new : Store) : Prop where
  /-- The working directory stays. -/
  cwd : new.cwd = old.cwd
  /-- What stands at a place stays, and only a directory is new. -/
  node : ∀ place, new.node? place = old.node? place ∨
    old.node? place = none ∧ new.node? place = some .directory

/-- A store becomes another one by bytes in the file at the end of a path, and by new directories
at empty places. -/
structure Written (old new : Store) (path : Path) (bytes : List UInt8) : Prop where
  /-- The path leads to the bytes. -/
  read : new.read path = .ok bytes
  /-- No other file is new, gone or changed. -/
  files : ∀ place, new.find path ≠ .ok place → ∀ content,
    new.node? place = some (.file content) ↔ old.node? place = some (.file content)
  /-- No directory is gone. -/
  directories : ∀ place, old.node? place = some .directory → new.node? place = some .directory
  /-- The working directory stays. -/
  cwd : new.cwd = old.cwd

section Nodes

variable {store : Store} {place other : Place} {node : Node}

/-- The root is a directory. -/
theorem ne_nil_of_node? (h : store.node? place ≠ some .directory) : place ≠ [] := by
  rintro rfl
  exact h rfl

theorem node?_put_self (h : place ≠ []) : (store.put place node).node? place = some node := by
  simp [node?, put, h]

/-- Something new at a place leaves the other places alone. -/
theorem node?_put_of_ne (h : other ≠ place) :
    (store.put place node).node? other = store.node? other := by
  have hlookup (nodes : List (Place × Node)) :
      (nodes.filter (·.1 ≠ place)).lookup other = nodes.lookup other := by
    induction nodes with
    | nil => rfl
    | cons entry nodes ih =>
        obtain ⟨key, value⟩ := entry
        by_cases hkey : key = place
        · have hother : (other == key) = false := by simpa [hkey] using h
          rw [List.filter_cons_of_neg (by simp [hkey]), ih, List.lookup_cons, hother]
        · rw [List.filter_cons_of_pos (by simp [hkey]), List.lookup_cons, List.lookup_cons, ih]
  have hne : (other == place) = false := by simpa using h
  simp only [node?, put, List.lookup_cons, hne, hlookup]

end Nodes

namespace Grows

variable {a b c : Store}

theorem refl (a : Store) : Grows a a := ⟨rfl, fun _ => .inl rfl⟩

theorem trans (hab : Grows a b) (hbc : Grows b c) : Grows a c := by
  refine ⟨hbc.cwd.trans hab.cwd, fun place => ?_⟩
  rcases hab.node place with hsame | ⟨hempty, hnew⟩
  · rw [← hsame]
    exact hbc.node place
  · -- A directory that was made stays one.
    rcases hbc.node place with hsame | ⟨hgone, -⟩
    · exact .inr ⟨hempty, hsame.trans hnew⟩
    · rw [hnew] at hgone
      cases hgone

/-- A new directory at an empty place is all that changes. -/
theorem put {place : Place} (h : a.node? place = none) : Grows a (a.put place .directory) := by
  have hnode : a.node? place ≠ some .directory := by
    rw [h]
    exact nofun
  refine ⟨rfl, fun other => ?_⟩
  by_cases hother : other = place
  · rw [hother]
    exact .inr ⟨h, node?_put_self (ne_nil_of_node? hnode)⟩
  · exact .inl (node?_put_of_ne hother)

/-- No file is new, gone or changed. -/
theorem file_iff (h : Grows a b) {place : Place} {content : List UInt8} :
    b.node? place = some (.file content) ↔ a.node? place = some (.file content) := by
  rcases h.node place with hsame | ⟨hempty, hnew⟩
  · rw [hsame]
  · simp [hempty, hnew]

/-- No directory is gone. -/
theorem directory (h : Grows a b) {place : Place} (hplace : a.node? place = some .directory) :
    b.node? place = some .directory := by
  rcases h.node place with hsame | ⟨-, hnew⟩
  · rw [hsame, hplace]
  · exact hnew

end Grows

section Directories

variable {store new : Store} {path : Path}

/-- An attempt that succeeds makes one directory. -/
theorem grows_of_makeDirectory (h : store.makeDirectory path = .ok new) : Grows store new := by
  rw [makeDirectory] at h
  split at h
  · cases h
  · cases h
  · split at h
    · cases h
    · rename_i hempty
      obtain rfl := Except.ok.inj h
      exact .put hempty

/-- An attempt that fails makes none. -/
private theorem fst_unlessDirectory (store : Store) (path : Path) (failure : WriteFailure) :
    (store.unlessDirectory path failure).1 = store := by
  rw [unlessDirectory]
  split <;> rfl

/-- Making the directories of a path makes directories only, whether it gets to its end or not. -/
theorem grows_makeDirectories (store : Store) (path : Path) :
    Grows store (store.makeDirectories path).1 := by
  -- The induction follows the attempts: at the path, at its parents, and at the path again.
  fun_induction makeDirectories store path with
  | case1 path made h => exact grows_of_makeDirectory h
  | case2 path h hparts => exact .refl store
  | case3 path h hparts parents failure hparents ih =>
      rw [hparents] at ih
      exact ih
  | case4 path h hparts parents hparents made hmade ih =>
      rw [hparents] at ih
      exact ih.trans (grows_of_makeDirectory hmade)
  | case5 path h hparts parents hparents hmade ih =>
      rw [hparents] at ih
      exact ih
  | case6 path h hparts parents hparents failure hfound hmade ih =>
      rw [hparents] at ih
      rw [fst_unlessDirectory]
      exact ih
  | case7 path failure hfound h =>
      rw [fst_unlessDirectory]
      exact .refl store

end Directories

section Files

variable {store new : Store} {path : Path} {place : Place} {bytes : List UInt8}

/-- A file is written where its path ends, unless a directory stands there. -/
theorem write_eq_ok_iff : store.write path bytes = .ok new ↔
    ∃ place, store.find path = .ok place ∧ store.node? place ≠ some .directory ∧
      store.put place (.file bytes) = new := by
  rw [write]
  split
  · rename_i h
    simp [h]
  · rename_i h
    simp [h]
  · rename_i place h
    simp only [h, Except.ok.injEq, exists_eq_left']
    split
    · rename_i hnode
      simp [hnode]
    · rename_i hnode
      exact ⟨fun h => ⟨hnode, Except.ok.inj h⟩, fun h => congrArg Except.ok h.2⟩

/-- What is put at a place that is no directory does not stand in the way of any path. -/
private theorem follow_put (h : store.node? place ≠ some .directory) (node : Node)
    {start last : Place} {parts : List String} (hfollow : store.follow start parts = .ok last) :
    (store.put place node).follow start parts = .ok last := by
  induction parts generalizing start with
  | nil => exact hfollow
  | cons part parts ih =>
      rw [follow] at hfollow ⊢
      split at hfollow
      · rename_i hstart
        have hne : start ≠ place := by
          rintro rfl
          exact h hstart
        rw [node?_put_of_ne hne, hstart]
        exact ih hfollow
      · cases hfollow
      · cases hfollow

theorem find_put (h : store.node? place ≠ some .directory) (node : Node) {last : Place}
    (hfind : store.find path = .ok last) : (store.put place node).find path = .ok last :=
  follow_put h node hfind

/-- A file that is written is read back, and the other places stay as they are. -/
theorem written_of_write (h : store.write path bytes = .ok new) : Written store new path bytes := by
  obtain ⟨place, hfind, hnode, rfl⟩ := write_eq_ok_iff.mp h
  have hplace : place ≠ [] := ne_nil_of_node? hnode
  have hagain := find_put hnode (.file bytes) hfind
  refine ⟨?_, fun other hother content => ?_, fun other hother => ?_, rfl⟩
  · rw [read, hagain]
    simp only [node?_put_self hplace]
  · have hne : other ≠ place := by
      rintro rfl
      exact hother hagain
    rw [node?_put_of_ne hne]
  · have hne : other ≠ place := by
      rintro rfl
      exact hnode hother
    rw [node?_put_of_ne hne, hother]

/-- New directories on the way to a file do not change what writing it does. -/
theorem Written.of_grows {middle : Store} (hgrows : Grows store middle)
    (h : Written middle new path bytes) : Written store new path bytes where
  read := h.read
  files place hplace content := (h.files place hplace content).trans hgrows.file_iff
  directories place hplace := h.directories place (hgrows.directory hplace)
  cwd := h.cwd.trans hgrows.cwd

end Files

end Store

namespace Build

variable {store new : Store} {path : Path} {text : String}

/-- A text that is written stands in the file at its path. -/
theorem written_of_writeText (h : writeText store path text = (new, none)) :
    Store.Written store new path (Text.encodeUtf8 text.toList) := by
  have hgrows := store.grows_makeDirectories path.parent
  rw [writeText] at h
  split at h
  · cases h
  · rename_i made hmade
    rw [hmade] at hgrows
    split at h
    · rename_i hwrite
      obtain ⟨rfl, -⟩ := Prod.mk.inj h
      exact .of_grows hgrows (Store.written_of_write hwrite)
    · cases h

/-- A text that cannot be written leaves no more behind than new directories. -/
theorem grows_of_writeText {failure : WriteFailure}
    (h : writeText store path text = (new, some failure)) : Store.Grows store new := by
  have hgrows := store.grows_makeDirectories path.parent
  rw [writeText] at h
  split at h
  · rename_i made stopped hmade
    rw [hmade] at hgrows
    obtain ⟨rfl, -⟩ := Prod.mk.inj h
    exact hgrows
  · rename_i made hmade
    rw [hmade] at hgrows
    split at h
    · cases h
    · obtain ⟨rfl, -⟩ := Prod.mk.inj h
      exact hgrows

end Build

end Phrasebook
