import Gestalt.Library.Delimited

/-!
# Gestalt.Library.Path

POSIX paths, read lexically.

A path is split at its slashes.  Empty parts and `.` name nothing, `..` drops
the name before it, and what is left is the list of names of a normalized
absolute path.  One path lies within another when its names begin with the
names of the other; comparing the texts of the two compares less than that.
-/

namespace PosixPath

open Delimited

/-- A path begins at the root. -/
def isAbsolute (path : String) : Bool := path.toList.head? = some '/'

/-- `os.path.join`: an absolute path replaces what it is joined to. -/
def join (base path : String) : String :=
  if isAbsolute path then path
  else if base = "" ∨ base.toList.getLast? = some '/' then base ++ path
  else base ++ "/" ++ path

/-- The parts between the slashes. -/
def parts : List Char → List (List Char)
  | [] => [[]]
  | c :: cs =>
      if c = '/' then [] :: parts cs
      else match parts cs with
        | [] => [[c]]
        | part :: rest => (c :: part) :: rest

/-- The names after one more part. -/
def enter (names : List (List Char)) (part : List Char) : List (List Char) :=
  if part = [] ∨ part = ['.'] then names
  else if part = ['.', '.'] then names.dropLast
  else names ++ [part]

/-- The names of a normalized absolute path. -/
def names (path : String) : List (List Char) := (parts path.toList).foldl enter []

/-- The text of the path with the given names. -/
def render (names : List (List Char)) : String :=
  if names = [] then "/" else String.ofList (separated '/' names)

/-- Normalize an absolute path, following no link. -/
def resolve (path : String) : String := render (names path)

/-- The path with the names `inner` is the one with the names `outer`, or a
descendant of it. -/
def Within (outer inner : List (List Char)) : Prop := outer <+: inner

instance (outer inner : List (List Char)) : Decidable (Within outer inner) :=
  inferInstanceAs (Decidable (outer <+: inner))

/-- The path with the names `inner` goes through a sibling of the one with the
names `outer`, whose name goes on where the name of the other ends. -/
def ThroughNamesake (outer inner : List (List Char)) : Prop :=
  ∃ parent name rest more, outer = parent ++ [name] ∧ more ≠ [] ∧
    inner = parent ++ (name ++ more) :: rest

/-! ## normalized names -/

/-- What names a directory: a text that is not empty and holds no slash. -/
structure IsName (name : List Char) : Prop where
  nonempty : name ≠ []
  plain : Plain (· = '/') name

theorem plain_of_mem_parts {text part : List Char} (h : part ∈ parts text) :
    Plain (· = '/') part := by
  induction text generalizing part with
  | nil =>
      simp only [parts, List.mem_singleton] at h
      rw [h]
      exact plain_nil
  | cons c text ih =>
      rw [parts] at h
      split at h
      · rcases List.mem_cons.mp h with rfl | h
        · exact plain_nil
        · exact ih h
      · next hc =>
          cases hparts : parts text with
          | nil =>
              simp only [hparts, List.mem_singleton] at h
              rw [h]
              simp [Plain, hc]
          | cons first rest =>
              simp only [hparts, List.mem_cons] at h
              rcases h with rfl | h
              · have hfirst := ih (hparts ▸ List.mem_cons_self ..)
                intro d hd
                rcases List.mem_cons.mp hd with rfl | hd
                · exact hc
                · exact hfirst d hd
              · exact ih (hparts ▸ List.mem_cons_of_mem _ h)

/-- One more part leaves names. -/
theorem isName_of_mem_enter {stack : List (List Char)} {part name : List Char}
    (hstack : ∀ name ∈ stack, IsName name) (hpart : Plain (· = '/') part)
    (h : name ∈ enter stack part) : IsName name := by
  rw [enter] at h
  split at h
  · exact hstack name h
  · next hempty =>
      split at h
      · exact hstack name (List.mem_of_mem_dropLast h)
      · rcases List.mem_append.mp h with h | h
        · exact hstack name h
        · rw [List.mem_singleton.mp h]
          exact ⟨fun heq => hempty (Or.inl heq), hpart⟩

theorem isName_of_mem_foldl_enter {parts stack : List (List Char)} {name : List Char}
    (hstack : ∀ name ∈ stack, IsName name) (hparts : ∀ part ∈ parts, Plain (· = '/') part)
    (h : name ∈ parts.foldl enter stack) : IsName name := by
  induction parts generalizing stack with
  | nil => exact hstack name h
  | cons part parts ih =>
      have hpart := hparts part (List.mem_cons_self ..)
      refine ih (fun name hname => isName_of_mem_enter hstack hpart hname) ?_ h
      exact fun part hpart => hparts part (List.mem_cons_of_mem _ hpart)

/-- A normalized path consists of names. -/
theorem isName_of_mem_names {path : String} {name : List Char} (h : name ∈ names path) :
    IsName name :=
  isName_of_mem_foldl_enter (by simp) (fun _ hpart => plain_of_mem_parts hpart) h

/-! ## absolute paths -/

/-- A normalized path is absolute. -/
theorem isAbsolute_resolve (path : String) : isAbsolute (resolve path) = true := by
  unfold resolve isAbsolute render
  cases names path <;> simp

/-- What is joined to an absolute path is absolute. -/
theorem isAbsolute_join {base : String} (h : isAbsolute base = true) (path : String) :
    isAbsolute (join base path) = true := by
  have hhead : ∀ rest : String, isAbsolute (base ++ rest) = true := by
    intro rest
    simp only [isAbsolute, decide_eq_true_eq] at h ⊢
    rw [String.toList_append, List.head?_append, h]
    rfl
  unfold join
  split
  · assumption
  · split
    · exact hhead path
    · rw [String.append_assoc]
      exact hhead _

/-! ## comparing texts -/

/-- A namesake lies outside. -/
theorem ThroughNamesake.not_within {outer inner : List (List Char)}
    (h : ThroughNamesake outer inner) : ¬ Within outer inner := by
  obtain ⟨parent, name, rest, more, rfl, hmore, rfl⟩ := h
  simpa [Within, List.cons_prefix_cons] using hmore

theorem toList_render_nil : (render []).toList = ['/'] := rfl

theorem toList_render {names : List (List Char)} (h : names ≠ []) :
    (render names).toList = separated '/' names := by
  simp [render, h]

/-- **What a prefix of the text tells.**  The text of one normalized path begins
the text of another when the other lies within it, or goes through a namesake. -/
theorem render_prefix_iff {outer inner : List (List Char)} (houter : ∀ name ∈ outer, IsName name)
    (hinner : ∀ name ∈ inner, IsName name) :
    (render outer).toList <+: (render inner).toList ↔
      Within outer inner ∨ ThroughNamesake outer inner := by
  rcases outer.eq_nil_or_concat' with rfl | ⟨parent, name, rfl⟩
  · have hroot : (render []).toList <+: (render inner).toList := by
      cases inner with
      | nil => exact List.prefix_refl _
      | cons first rest =>
          rw [toList_render_nil, toList_render (List.cons_ne_nil _ _)]
          simp
    simp [hroot, Within]
  · have hname := houter name (by simp)
    have hparent := fun part hpart => (houter part (List.mem_append_left _ hpart)).plain
    have htexts : (render (parent ++ [name])).toList <+: (render inner).toList ↔
        ∃ word rest, inner = parent ++ word :: rest ∧ name <+: word := by
      rw [toList_render (by simp)]
      cases inner with
      | nil =>
          rw [toList_render_nil]
          have hlong : ¬ separated '/' (parent ++ [name]) <+: ['/'] := by
            intro h
            cases parent with
            | nil => simp [hname.nonempty] at h
            | cons first parent =>
                have hlength := h.length_le
                cases parent <;> simp at hlength
          simp [hlong]
      | cons first rest =>
          rw [toList_render (List.cons_ne_nil _ _)]
          exact separated_prefix_iff hparent hname.plain fun word h => (hinner word h).plain
    rw [htexts, Within]
    constructor
    · rintro ⟨word, rest, rfl, more, rfl⟩
      rcases eq_or_ne more [] with rfl | hmore
      · exact Or.inl ⟨rest, by simp⟩
      · exact Or.inr ⟨parent, name, rest, more, rfl, hmore, rfl⟩
    · rintro (⟨rest, rfl⟩ | ⟨parent', name', rest, more, heq, -, rfl⟩)
      · exact ⟨name, rest, by simp, List.prefix_refl _⟩
      · obtain ⟨rfl, hsingle⟩ := List.append_inj' heq rfl
        obtain rfl := List.singleton_inj.mp hsingle
        exact ⟨name ++ more, rest, rfl, List.prefix_append _ _⟩

end PosixPath
