import GridSource.Proofs.Url.Path
import GridSource.Url.Address

/-!
# Absolute addresses

An absolute address without query and fragment is laid out as a scheme, an authority and a
path, and its text determines all three.
-/

namespace GridSource.Address

/-- The characters that do not end an authority. -/
def isInAuthority (character : Char) : Bool :=
  !(character == '/' || character == '?' || character == '#')

/-- The layout of an absolute address without query and fragment. -/
@[ext]
structure Layout where
  scheme : List Char
  authority : List Char
  path : List Char
  schemeFirst : ∃ first ∈ scheme.head?, first.isAlpha = true
  schemeCharacters : ∀ character ∈ scheme, isSchemeChar character = true
  hasAuthority : authority ≠ []
  authorityCharacters : ∀ character ∈ authority, isInAuthority character = true
  isRooted : IsRooted path
  pathCharacters : '?' ∉ path ∧ '#' ∉ path

namespace Layout

/-- What stands before the path. -/
def origin (layout : Layout) : List Char :=
  layout.scheme ++ ':' :: '/' :: '/' :: layout.authority

def text (layout : Layout) : String := String.ofList (layout.origin ++ layout.path)

/-- The path without trailing slashes. -/
def stem (layout : Layout) : List Char := layout.path.rdropWhile (· == '/')

/-- The path of the collection, once its dot segments are removed; it ends in a slash. -/
def collection (layout : Layout) : List Char := removeDotSegments (layout.stem ++ ['/'])

theorem splitScheme_append (layout : Layout) (rest : List Char) :
    splitScheme (layout.scheme ++ ':' :: rest) = (layout.scheme, rest) := by
  have hcolon : (':' :: rest).takeWhile isSchemeChar = [] := rfl
  have htake : (layout.scheme ++ ':' :: rest).takeWhile isSchemeChar = layout.scheme := by
    rw [List.takeWhile_append_of_pos layout.schemeCharacters, hcolon, List.append_nil]
  obtain ⟨first, hhead, halpha⟩ := layout.schemeFirst
  obtain ⟨others, hscheme⟩ := List.head?_eq_some_iff.mp hhead
  rw [splitScheme, htake, List.drop_left, hscheme]
  simp only [halpha, if_pos]

theorem takeWhile_isInAuthority (layout : Layout) :
    (layout.authority ++ layout.path).takeWhile isInAuthority = layout.authority := by
  have hslash : isInAuthority '/' = false := rfl
  rw [List.takeWhile_append_of_pos layout.authorityCharacters]
  rcases layout.isRooted with hnil | hhead
  · simp [hnil]
  · obtain ⟨rest, hpath⟩ := List.head?_eq_some_iff.mp hhead
    simp [hpath, hslash]

/-- The parts of an address can be read off its text. -/
theorem text_injective : Function.Injective text := by
  intro left right htext
  have hparts (layout : Layout) : layout.text.toList =
      layout.scheme ++ ':' :: '/' :: '/' :: (layout.authority ++ layout.path) := by
    simp [text, origin]
  have hsame := congrArg String.toList htext
  rw [hparts, hparts] at hsame
  have hscheme := left.splitScheme_append ('/' :: '/' :: (left.authority ++ left.path))
  rw [hsame, right.splitScheme_append, Prod.mk.injEq] at hscheme
  have hrest : right.authority ++ right.path = left.authority ++ left.path := by
    simpa using hscheme.2
  have hauthority := left.takeWhile_isInAuthority
  rw [← hrest, right.takeWhile_isInAuthority] at hauthority
  rw [hauthority, List.append_cancel_left_eq] at hrest
  exact Layout.ext hscheme.1.symm hauthority.symm hrest.symm

theorem rdropWhile_text (layout : Layout) :
    layout.text.toList.rdropWhile (· == '/') = layout.origin ++ layout.stem := by
  rw [text, String.toList_ofList]
  refine rdropWhile_append (fun last hlast => ?_) layout.path
  have hsame : layout.origin.getLast? = layout.authority.getLast? := by
    have hsplit : layout.origin = (layout.scheme ++ [':', '/', '/']) ++ layout.authority := by
      simp [origin]
    rw [hsplit, List.getLast?_append_of_ne_nil _ layout.hasAuthority]
  rw [hsame] at hlast
  have hinside := layout.authorityCharacters last (List.mem_of_getLast? hlast)
  simp only [isInAuthority, Bool.not_eq_true', Bool.or_eq_false_iff] at hinside
  exact hinside.1.1

theorem stem_prefix (layout : Layout) : layout.stem <+: layout.path := List.rdropWhile_prefix _ _

theorem isRooted_stem (layout : Layout) : IsRooted layout.stem := by
  obtain ⟨slashes, hpath⟩ := layout.stem_prefix
  exact (hpath ▸ layout.isRooted).of_append

/-- Behind a path without dot segments the collection is that path with a slash. -/
theorem collection_eq (layout : Layout) (hplain : ¬ HasDotSegment layout.stem) :
    layout.collection = layout.stem ++ ['/'] := by
  obtain ⟨directory, -, hdirectory, hmove⟩ :=
    exists_directory layout.isRooted_stem (.inl rfl : IsRooted [])
  rw [collection, removeDotSegments, hmove, moveSegments_slash, hdirectory hplain]
  rfl

/-- The layout with a slash and a segment behind the path without trailing slashes. -/
def below (layout : Layout) (segment : List Char) (hquestion : '?' ∉ segment)
    (hnumber : '#' ∉ segment) : Layout :=
  { layout with
    path := layout.stem ++ '/' :: segment
    isRooted := layout.isRooted_stem.append (isRooted_cons segment)
    pathCharacters := by
      have hquestion' : '?' ∉ layout.stem :=
        fun hmem => layout.pathCharacters.1 (layout.stem_prefix.subset hmem)
      have hnumber' : '#' ∉ layout.stem :=
        fun hmem => layout.pathCharacters.2 (layout.stem_prefix.subset hmem)
      simp [hquestion, hquestion', hnumber, hnumber'] }

end Layout

end GridSource.Address
