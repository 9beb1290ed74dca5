import Mathlib.Data.List.Basic
import StanzaLint.Files
import StanzaLint.Settings
import StanzaLint.Run

/-!
# Paths that only lead down

A path without empty components and dots is its components, divided by slashes. On such
paths, to take the parent and to join a target is to drop the last component and to append
others (`split_resolve`). So a directory in front of all of them stays where it is
(`resolve_below`), and a tree that was moved below it has the same files behind it
(`FileTree.find_movedInto`).
-/

namespace StanzaLint

open Text

namespace Path

def IsPart (part : List Char) : Prop := part ≠ [] ∧ part ≠ ['.'] ∧ part ≠ ['.', '.']

def IsPlain (path : Path) : Prop := ∀ part ∈ split '/' path.toList, IsPart part

def IsName (name : Path) : Prop := name.IsPlain ∧ '/' ∉ name.toList

instance (path : Path) : Decidable path.IsPlain :=
  inferInstanceAs (Decidable (∀ part ∈ split '/' path.toList,
    part ≠ [] ∧ part ≠ ['.'] ∧ part ≠ ['.', '.']))

instance (name : Path) : Decidable name.IsName := inferInstanceAs (Decidable (_ ∧ _))

def below (d path : Path) : Path := d ++ "/" ++ path

-- ---------------------------------------------------------------------------
-- Components
-- ---------------------------------------------------------------------------

theorem joinParts_cons {parts : List (List Char)} (h : parts ≠ []) (part : List Char) :
    joinParts (part :: parts) = part ++ '/' :: joinParts parts := by
  obtain ⟨next, rest, rfl⟩ := List.exists_cons_of_ne_nil h
  rfl

theorem joinParts_ne_nil {part : List Char} (h : part ≠ []) (parts : List (List Char)) :
    joinParts (part :: parts) ≠ [] := by
  cases parts with
  | nil => exact h
  | cons next rest => simp [joinParts]

theorem joinParts_eq (parts : List (List Char)) : joinParts parts = ['/'].intercalate parts := by
  fun_induction joinParts parts with
  | case1 => rfl
  | case2 part => rw [List.intercalate_singleton]
  | case3 part rest hne ih =>
    obtain ⟨next, rest, rfl⟩ := List.exists_cons_of_ne_nil hne
    simp [ih, List.intercalate_cons_cons]

theorem joinParts_split (cs : List Char) : joinParts (split '/' cs) = cs := by
  rw [joinParts_eq, intercalate_split]

theorem split_joinParts {parts : List (List Char)} (hne : parts ≠ [])
    (h : ∀ part ∈ parts, '/' ∉ part) : split '/' (joinParts parts) = parts := by
  induction parts with
  | nil => exact absurd rfl hne
  | cons part rest ih =>
    rw [List.forall_mem_cons] at h
    cases rest with
    | nil => exact split_of_not_mem h.1
    | cons next rest =>
      rw [joinParts_cons (List.cons_ne_nil _ _), split_append_cons, split_of_not_mem h.1,
        ih (List.cons_ne_nil _ _) h.2]
      rfl

theorem eq_of_split_eq {a b : Path} (h : split '/' a.toList = split '/' b.toList) : a = b := by
  rw [← String.toList_inj, ← joinParts_split a.toList, h, joinParts_split]

theorem split_below {d : Path} (hd : '/' ∉ d.toList) (path : Path) :
    split '/' (below d path).toList = d.toList :: split '/' path.toList := by
  have hlist : (below d path).toList = d.toList ++ '/' :: path.toList := by simp [below]
  rw [hlist, split_append_cons, split_of_not_mem hd]
  rfl

theorem IsName.part {d : Path} (h : d.IsName) : IsPart d.toList :=
  h.1 _ (by rw [split_of_not_mem h.2]; exact List.mem_singleton_self _)

theorem IsPlain.below {d path : Path} (hd : d.IsName) (h : path.IsPlain) :
    (below d path).IsPlain := by
  intro part hp
  rw [split_below hd.2, List.mem_cons] at hp
  rcases hp with rfl | hp
  · exact hd.part
  · exact h part hp

-- ---------------------------------------------------------------------------
-- Parents and targets
-- ---------------------------------------------------------------------------

theorem dropIdle_eq {parts : List (List Char)} (h : ∀ part ∈ parts, IsPart part) :
    dropIdle parts = parts := by
  have hkept : parts.reverse.dropWhile (fun part => part == [] || part == ['.']) =
      parts.reverse := by
    cases hr : parts.reverse with
    | nil => rfl
    | cons part rest =>
      obtain ⟨hnil, hdot, -⟩ := h part (by rw [← List.mem_reverse, hr]; exact List.mem_cons_self)
      simp [hnil, hdot]
  rw [dropIdle, hkept, List.reverse_reverse]

theorem IsPlain.lead {path : Path} (h : path.IsPlain) :
    Path.lead path.toList = ([], path.toList) := by
  unfold IsPlain at h
  unfold Path.lead
  split
  next rest hp =>
    rw [hp] at h
    exact absurd rfl (h [] (by simp [split, splitBy])).1
  next hp =>
    rw [hp] at h
    exact absurd rfl (h ['.'] (by simp [split, splitBy])).2.1
  next rest hp =>
    rw [hp] at h
    exact absurd rfl (h ['.'] (by simp [split, splitBy])).2.1
  next => rfl

theorem IsPlain.not_isAbsolute {path : Path} (h : path.IsPlain) : path.isAbsolute = false := by
  have hlead := h.lead
  cases hp : path.toList with
  | nil => simp [isAbsolute, hp]
  | cons c rest =>
    by_cases hc : c = '/'
    · rw [hp, hc] at hlead
      simp [Path.lead] at hlead
    · simp [isAbsolute, hp, hc]

theorem IsPlain.parent {path : Path} (h : path.IsPlain) :
    path.parent = String.ofList (joinParts (split '/' path.toList).dropLast) := by
  have hall := dropIdle_eq h
  have hfront := dropIdle_eq fun part hp => h part (List.dropLast_subset _ hp)
  obtain ⟨part, rest, hsplit⟩ := List.exists_cons_of_ne_nil (split_ne_nil '/' path.toList)
  simp only [Path.parent, h.lead, hall]
  rw [hsplit] at hfront ⊢
  simp only [hfront, List.nil_append]

theorem getLast?_joinParts {parts : List (List Char)} (h : ∀ part ∈ parts, IsPart part)
    (hs : ∀ part ∈ parts, '/' ∉ part) : (joinParts parts).getLast? ≠ some '/' := by
  induction parts with
  | nil => simp [joinParts]
  | cons part rest ih =>
    rw [List.forall_mem_cons] at h hs
    cases rest with
    | nil =>
      intro hl
      exact hs.1 (List.mem_of_getLast? hl)
    | cons next rest =>
      have hne := joinParts_ne_nil (h.2 next List.mem_cons_self).1 rest
      rw [joinParts_cons (List.cons_ne_nil _ _), List.getLast?_append_cons]
      rw [List.getLast?_cons_of_ne_nil hne]
      exact ih h.2 hs.2

theorem split_resolve {settings : Settings} (hs : settings.includeDirectory = none)
    {enclosing target : Path} (he : enclosing.IsPlain) (ht : target.IsPlain) :
    split '/' (Run.resolve settings enclosing target).toList =
      (split '/' enclosing.toList).dropLast ++ split '/' target.toList := by
  have hplain : ∀ part ∈ (split '/' enclosing.toList).dropLast, IsPart part :=
    fun part hp => he part (List.dropLast_subset _ hp)
  have hslash : ∀ part ∈ (split '/' enclosing.toList).dropLast, '/' ∉ part :=
    fun part hp => not_mem_of_mem_split (List.dropLast_subset _ hp)
  simp only [Run.resolve, ht.not_isAbsolute, Bool.false_eq_true, ↓reduceIte, hs, Option.getD_none,
    he.parent]
  generalize (split '/' enclosing.toList).dropLast = front at hplain hslash
  cases front with
  | nil => simp [join, joinParts]
  | cons part rest =>
    have hne := joinParts_ne_nil (hplain part List.mem_cons_self).1 rest
    have hlast := getLast?_joinParts hplain hslash
    have hjoin : (join (String.ofList (joinParts (part :: rest))) target).toList =
        joinParts (part :: rest) ++ '/' :: target.toList := by
      simp [join, ht.not_isAbsolute, hne, hlast]
    rw [hjoin, split_append_cons, split_joinParts (List.cons_ne_nil _ _) hslash]

theorem IsPlain.resolve {settings : Settings} (hs : settings.includeDirectory = none)
    {enclosing target : Path} (he : enclosing.IsPlain) (ht : target.IsPlain) :
    (Run.resolve settings enclosing target).IsPlain := by
  intro part hp
  rw [split_resolve hs he ht, List.mem_append] at hp
  rcases hp with hp | hp
  · exact he part (List.dropLast_subset _ hp)
  · exact ht part hp

theorem resolve_below {settings : Settings} (hs : settings.includeDirectory = none) {d : Path}
    (hd : d.IsName) {enclosing target : Path} (he : enclosing.IsPlain) (ht : target.IsPlain) :
    Run.resolve settings (below d enclosing) target =
      below d (Run.resolve settings enclosing target) := by
  apply eq_of_split_eq
  rw [split_resolve hs (he.below hd) ht, split_below hd.2, split_below hd.2, split_resolve hs he ht,
    List.dropLast_cons_of_ne_nil (split_ne_nil _ _), List.cons_append]

end Path

-- ---------------------------------------------------------------------------
-- Trees
-- ---------------------------------------------------------------------------

/-- What plain paths lead to in `files`, they lead to below `d` in `moved`. -/
def Files.Moved (d : Path) (files moved : Files) : Prop :=
  ∀ path : Path, path.IsPlain → moved (Path.below d path) = files path

namespace FileTree

variable (tree : FileTree) (d : Path)

/-- Where an entry is after all that is in the current directory went below `d`. -/
def placeBelow (place : List String) : List String :=
  if tree.current <+: place ∧ place ≠ tree.current then
    tree.current ++ d :: place.drop tree.current.length
  else place

/-- Moves all that is in the current directory into a new directory `d` of it. -/
def movedInto : FileTree where
  entries := (tree.current ++ [d], .directory) ::
    tree.entries.map fun entry => (tree.placeBelow d entry.1, entry.2)
  current := tree.current

theorem placeBelow_append {names : List String} (h : names ≠ []) :
    tree.placeBelow d (tree.current ++ names) = tree.current ++ d :: names := by
  rw [placeBelow, if_pos ⟨List.prefix_append _ _, by simpa using h⟩, List.drop_left]

theorem placeBelow_eq_iff {place names : List String} (h : names ≠ []) :
    tree.placeBelow d place = tree.current ++ d :: names ↔ place = tree.current ++ names := by
  refine ⟨fun he => ?_, fun he => by rw [he, placeBelow_append tree d h]⟩
  by_cases hbelow : tree.current <+: place ∧ place ≠ tree.current
  · rw [placeBelow, if_pos hbelow] at he
    obtain ⟨⟨rest, rfl⟩, -⟩ := hbelow
    simpa using he
  · rw [placeBelow, if_neg hbelow] at he
    refine absurd ?_ hbelow
    simp [he]

theorem placeBelow_eq_current_iff {place : List String} :
    tree.placeBelow d place = tree.current ↔ place = tree.current := by
  by_cases hbelow : tree.current <+: place ∧ place ≠ tree.current
  · rw [placeBelow, if_pos hbelow]
    simp [hbelow.2]
  · rw [placeBelow, if_neg hbelow]

theorem lookup_map_below {entries : List (List String × Lookup)} {place moved : List String}
    (h : ∀ other, tree.placeBelow d other = moved ↔ other = place) :
    (entries.map fun entry => (tree.placeBelow d entry.1, entry.2)).lookup moved =
      entries.lookup place := by
  induction entries with
  | nil => rfl
  | cons entry rest ih =>
    have hkey : (moved == tree.placeBelow d entry.1) = (place == entry.1) := by
      rw [Bool.eq_iff_iff, beq_iff_eq, beq_iff_eq, eq_comm, h, eq_comm]
    rw [List.map_cons, List.lookup_cons, List.lookup_cons, hkey, ih]

theorem entryAt_movedInto_current :
    (tree.movedInto d).entryAt tree.current = tree.entryAt tree.current := by
  have hnew : (tree.current == tree.current ++ [d]) = false := by simp
  simp only [entryAt, movedInto, List.lookup_cons, hnew,
    tree.lookup_map_below d fun _ => tree.placeBelow_eq_current_iff d]

theorem entryAt_movedInto (h : tree.entryAt tree.current = .directory) (names : List String) :
    (tree.movedInto d).entryAt (tree.current ++ d :: names) = tree.entryAt (tree.current ++ names) := by
  cases names with
  | nil =>
    rw [List.append_nil, h]
    simp [entryAt, movedInto]
  | cons name rest =>
    have hnew : (tree.current ++ d :: name :: rest == tree.current ++ [d]) = false := by simp
    have hplace : ∀ other, tree.placeBelow d other = tree.current ++ d :: name :: rest ↔
        other = tree.current ++ name :: rest :=
      fun other => tree.placeBelow_eq_iff d (List.cons_ne_nil name rest)
    simp [entryAt, movedInto, List.lookup_cons, hnew, tree.lookup_map_below d hplace]

/-- From the old and from the new place, plain names lead to places of the same name, or
nowhere. -/
theorem walk_movedInto (h : tree.entryAt tree.current = .directory) {parts : List (List Char)}
    (hp : ∀ part ∈ parts, Path.IsPart part) (names : List String) :
    let more := parts.map String.ofList
    (tree.movedInto d).walk (tree.current ++ d :: names) more = none ∧
        tree.walk (tree.current ++ names) more = none ∨
      (tree.movedInto d).walk (tree.current ++ d :: names) more =
          some (tree.current ++ d :: (names ++ more)) ∧
        tree.walk (tree.current ++ names) more = some (tree.current ++ (names ++ more)) := by
  induction parts generalizing names with
  | nil => simp [walk]
  | cons part rest ih =>
    rw [List.forall_mem_cons] at hp
    obtain ⟨⟨hempty, hdot, hdots⟩, hrest⟩ := hp
    have hname : String.ofList part ≠ "" ∧ String.ofList part ≠ "." ∧ String.ofList part ≠ ".." := by
      simpa [← String.toList_inj] using ⟨hempty, hdot, hdots⟩
    have hentry := tree.entryAt_movedInto d h names
    have hlater := ih hrest (names ++ [String.ofList part])
    simp only [List.map_cons, walk, enter, hentry]
    cases tree.entryAt (tree.current ++ names) with
    | missing => simp
    | locked text => simp
    | file content => simp
    | directory =>
      by_cases hlong : (String.ofList part).utf8ByteSize > 255
      · simp [hname, hlong]
      · simpa [hname, hlong] using hlater

theorem placeOf?_plain {path : Path} (h : path.IsPlain) :
    tree.placeOf? path =
      if path.utf8ByteSize ≤ maxPath ∧ (path.toList.any (·.toNat == 0)) = false then
        tree.walk tree.current ((split '/' path.toList).map String.ofList)
      else none := by
  have hne : path.toList.isEmpty = false := by
    cases hp : path.toList with
    | nil => exact absurd rfl (h [] (by rw [hp]; exact List.mem_singleton_self _)).1
    | cons c rest => rfl
  simp only [placeOf?, hne, h.not_isAbsolute, Bool.false_or, Bool.false_eq_true, if_false]
  by_cases hsize : path.utf8ByteSize ≤ maxPath
  · cases path.toList.any (·.toNat == 0) <;> simp [hsize, Nat.not_lt.mpr hsize]
  · simp [hsize, Nat.not_le.mp hsize]

def pathTo (place : List String) : Path :=
  String.ofList (Path.joinParts ((place.drop tree.current.length).map String.toList))

/-- There may be a directory `d`, and paths stay short enough if they start with it. -/
structure HasRoom : Prop where
  name : d.utf8ByteSize ≤ 255
  noNul : d.toList.any (·.toNat == 0) = false
  paths : ∀ entry ∈ tree.entries, tree.current <+: entry.1 →
    (Path.below d (tree.pathTo entry.1)).utf8ByteSize ≤ maxPath

instance : Decidable (tree.HasRoom d) :=
  decidable_of_iff (_ ∧ _ ∧ _) ⟨fun h => ⟨h.1, h.2.1, h.2.2⟩, fun h => ⟨h.name, h.noNul, h.paths⟩⟩

theorem pathTo_append (path : Path) :
    tree.pathTo (tree.current ++ (split '/' path.toList).map String.ofList) = path := by
  rw [pathTo, List.drop_left, List.map_map]
  have hid : String.toList ∘ String.ofList = id := by
    funext cs
    exact String.toList_ofList
  rw [hid, List.map_id, Path.joinParts_split, String.ofList_toList]

theorem mem_of_entryAt_ne {place : List String} (hp : place ≠ [])
    (h : tree.entryAt place ≠ .missing) : ∃ entry ∈ tree.entries, entry.1 = place := by
  have hempty : place.isEmpty = false := by simpa using hp
  rw [entryAt, hempty] at h
  cases hl : tree.entries.lookup place with
  | none => simp [hl] at h
  | some entry =>
    obtain ⟨before, after, he, -⟩ := List.lookup_eq_some_iff.mp hl
    exact ⟨(place, entry), by simp [he], rfl⟩

variable {d}

theorem walk_moved (hd : d.IsName) (hname : d.utf8ByteSize ≤ 255) {path : Path}
    (h : path.IsPlain) :
    let names := (split '/' path.toList).map String.ofList
    (tree.movedInto d).walk tree.current (d :: names) = none ∧ tree.walk tree.current names = none ∨
      tree.entryAt tree.current = .directory ∧
        (tree.movedInto d).walk tree.current (d :: names) = some (tree.current ++ d :: names) ∧
        tree.walk tree.current names = some (tree.current ++ names) := by
  have hpart : d ≠ "" ∧ d ≠ "." ∧ d ≠ ".." := by
    refine ⟨?_, ?_, ?_⟩ <;> rintro rfl
    · exact hd.part.1 rfl
    · exact hd.part.2.1 rfl
    · exact hd.part.2.2 rfl
  have hlong : ¬d.utf8ByteSize > 255 := Nat.not_lt.mpr hname
  by_cases hcurrent : tree.entryAt tree.current = .directory
  · have hwalk := tree.walk_movedInto d hcurrent h []
    have hfirst : (tree.movedInto d).enter tree.current d = some (tree.current ++ [d]) := by
      simp [enter, entryAt_movedInto_current, hcurrent, hpart, hlong]
    simp only [walk, hfirst, Option.bind_some, hcurrent, true_and]
    simpa using hwalk
  · -- there is a first component, and nothing to look for it in
    have hfirst : ∀ (other : FileTree) name, other.entryAt tree.current = tree.entryAt tree.current →
        other.enter tree.current name = none := by
      intro other name he
      unfold enter
      rw [he]
      split
      next hdir => exact absurd hdir hcurrent
      next => rfl
    obtain ⟨part, rest, hsplit⟩ := List.exists_cons_of_ne_nil (split_ne_nil '/' path.toList)
    simp [hsplit, walk, hfirst (tree.movedInto d) d (tree.entryAt_movedInto_current d),
      hfirst tree _ rfl]

theorem find_movedInto (hd : d.IsName) (hroom : tree.HasRoom d) :
    Files.Moved d tree.find (tree.movedInto d).find := by
  intro path h
  have hsize : path.utf8ByteSize ≤ (Path.below d path).utf8ByteSize := by
    simp [Path.below, String.utf8ByteSize_append]
  have hnul : (Path.below d path).toList.any (·.toNat == 0) = path.toList.any (·.toNat == 0) := by
    simp [Path.below, hroom.noNul]
  have hcurrent : (tree.movedInto d).current = tree.current := rfl
  rw [find_eq, find_eq, placeOf?_plain _ (h.below hd), placeOf?_plain _ h, hnul,
    Path.split_below hd.2, List.map_cons, String.ofList_toList, hcurrent]
  rcases tree.walk_moved hd hroom.name h with ⟨hnew, hold⟩ | ⟨hdir, hnew, hold⟩
  · simp [hnew, hold]
  · have hentry := tree.entryAt_movedInto d hdir ((split '/' path.toList).map String.ofList)
    rw [hnew, hold]
    by_cases hfits : (Path.below d path).utf8ByteSize ≤ maxPath
    · cases path.toList.any (·.toNat == 0) <;> simp [hfits, Nat.le_trans hsize hfits, hentry]
    · -- a path that became too long led nowhere
      have hmissing : tree.entryAt (tree.current ++ (split '/' path.toList).map String.ofList) =
          .missing := by
        by_contra hfound
        obtain ⟨entry, hmem, hplace⟩ :=
          tree.mem_of_entryAt_ne (by simp [split_ne_nil]) hfound
        have hlength := hroom.paths entry hmem
        rw [hplace, pathTo_append] at hlength
        replace hlength := hlength (List.prefix_append _ _)
        exact hfits hlength
      cases path.toList.any (·.toNat == 0) <;> by_cases hshort : path.utf8ByteSize ≤ maxPath <;>
        simp [hfits, hshort, hmissing]

end FileTree

end StanzaLint
