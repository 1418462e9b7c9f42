import HubRoutes.FileTree
import Mathlib.Tactic.SplitIfs

/-!
# The path text of a file in a directory

A plain name is one that a path text can carry as a part of its own. Joined to the text of a directory
it names the file of that name in the directory, however the text of the directory is written: with
repeated slashes, with a slash or a point at its end, or not at all.
-/

namespace HubRoutes.FileTree

/-- A name that stands for a file in a directory when it is written behind the text of the directory. -/
structure IsPlain (name : String) : Prop where
  ne_empty : name ≠ ""
  ne_point : name ≠ "."
  ne_points : name ≠ ".."
  noSlash : '/' ∉ name.toList

/-- A name with a character that is no point is plain unless it has a slash. -/
theorem IsPlain.of_mem {name : String} {character : Char} (hmem : character ∈ name.toList)
    (hpoint : character ≠ '.') (hslash : '/' ∉ name.toList) : IsPlain name := by
  refine ⟨?_, ?_, ?_, hslash⟩
  · rintro rfl
    simp at hmem
  · rintro rfl
    simp [hpoint] at hmem
  · rintro rfl
    simp [hpoint] at hmem

theorem IsPlain.toList_ne_nil {name : String} (hname : IsPlain name) : name.toList ≠ [] := by
  simpa using hname.ne_empty

theorem IsPlain.toList_ne_point {name : String} (hname : IsPlain name) : name.toList ≠ ['.'] := by
  intro hsame
  exact hname.ne_point (String.toList_inj.1 hsame)

namespace Location

theorem splitSlashes_ne_nil (text : List Char) : splitSlashes text ≠ [] := by
  cases text with
  | nil => nofun
  | cons character rest =>
    rw [splitSlashes]
    split
    · nofun
    · split <;> nofun

/-- A slash separates the parts of the texts on its two sides. -/
theorem splitSlashes_append_slash (first second : List Char) :
    splitSlashes (first ++ '/' :: second) = splitSlashes first ++ splitSlashes second := by
  induction first with
  | nil => simp [splitSlashes]
  | cons character rest ih =>
    by_cases hslash : character = '/'
    · simp [splitSlashes, hslash, ih]
    · cases hrest : splitSlashes rest with
      | nil => exact absurd hrest (splitSlashes_ne_nil rest)
      | cons part others =>
        rw [hrest] at ih
        simp [splitSlashes, hslash, ih, hrest]

theorem splitSlashes_of_noSlash {text : List Char} (hslash : '/' ∉ text) :
    splitSlashes text = [text] := by
  induction text with
  | nil => rfl
  | cons character rest ih =>
    have hfirst : character ≠ '/' := by
      rintro rfl
      exact hslash List.mem_cons_self
    have hrest : '/' ∉ rest := fun hmem ↦ hslash (List.mem_cons_of_mem _ hmem)
    simp [splitSlashes, hfirst, ih hrest]

/-- The parts of a text that are not points, the last part first. -/
def namedParts (text : List Char) : List String :=
  (((splitSlashes text).filter fun part ↦ !part.isEmpty && part != ['.']).reverse).map String.ofList

theorem ofText_eq (text : String) :
    ofText text = ⟨text.toList.head? == some '/', namedParts text.toList,
      endingOf (splitSlashes text.toList)⟩ := rfl

/-- The names of a joined text are those of both sides of the slash. -/
theorem namedParts_append_slash (first second : List Char) :
    namedParts (first ++ '/' :: second) = namedParts second ++ namedParts first := by
  simp [namedParts, splitSlashes_append_slash]

/-- A plain name is the only name of its text. -/
theorem namedParts_plain {name : String} (hname : IsPlain name) :
    namedParts name.toList = [name] := by
  simp [namedParts, splitSlashes_of_noSlash hname.noSlash, hname.toList_ne_nil,
    hname.toList_ne_point]

/-- A text whose last part is a plain name ends with a name. -/
theorem endingOf_plain {name : String} (hname : IsPlain name) (parts : List (List Char)) :
    endingOf (parts ++ [name.toList]) = .name := by
  simp [endingOf, hname.toList_ne_nil, hname.toList_ne_point]

/-- A text that ends with a plain name behind a slash ends with that name. -/
theorem endingOf_append_slash {name : String} (hname : IsPlain name) (front : List Char) :
    endingOf (splitSlashes (front ++ '/' :: name.toList)) = .name := by
  rw [splitSlashes_append_slash, splitSlashes_of_noSlash hname.noSlash]
  exact endingOf_plain hname _

theorem ofText_of_slash {name : String} (hname : IsPlain name) {text : String} {front : List Char}
    (htext : text.toList = front ++ '/' :: name.toList) :
    ofText text = ⟨(front ++ ['/']).head? == some '/', name :: namedParts front, .name⟩ := by
  have hhead : (front ++ '/' :: name.toList).head? = (front ++ ['/']).head? := by
    cases front <;> rfl
  rw [ofText_eq, htext, hhead, endingOf_append_slash hname, namedParts_append_slash,
    namedParts_plain hname]
  rfl

/-- A plain name in the directory of a text is one more part, whatever the text is. -/
theorem ofText_joinText (directory : String) {name : String} (hname : IsPlain name) :
    ofText (joinText directory name) =
      ⟨(ofText directory).isAbsolute, name :: (ofText directory).parts, .name⟩ := by
  unfold joinText
  split_ifs with hempty hslash
  · subst hempty
    have hrelative : (name.toList.head? == some '/') = false := by
      rw [beq_eq_false_iff_ne]
      exact fun hhead ↦ hname.noSlash (List.mem_of_mem_head? hhead)
    have hending := endingOf_plain hname []
    rw [ofText_eq name, hrelative, namedParts_plain hname, splitSlashes_of_noSlash hname.noSlash]
    exact congrArg (Location.mk false [name]) hending
  · obtain ⟨front, hfront⟩ := List.getLast?_eq_some_iff.1 hslash
    have hjoined : (directory ++ name).toList = front ++ '/' :: name.toList := by
      simp [hfront]
    have hparts : namedParts (front ++ ['/']) = namedParts front := namedParts_append_slash front []
    rw [ofText_of_slash hname hjoined, ofText_eq directory, hfront, hparts]
  · have hjoined : (directory ++ "/" ++ name).toList = directory.toList ++ '/' :: name.toList := by
      simp
    have hhead : (directory.toList ++ ['/']).head? = directory.toList.head? := by
      have hpresent : directory.toList ≠ [] := by
        simpa using hempty
      cases hdirectory : directory.toList with
      | nil => exact absurd hdirectory hpresent
      | cons first rest => rfl
    rw [ofText_of_slash hname hjoined, ofText_eq directory, hhead]

end Location

end HubRoutes.FileTree
