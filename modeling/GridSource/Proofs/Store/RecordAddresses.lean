import GridSource.Proofs.Store.Records
import GridSource.Proofs.Url.Address

/-!
# Where a write arrives

An address is brought into normal form before it is asked for: its dot segments are removed.
A write arrives at one record of its resource unless the key is shown as nothing, as a dot or
as two dots.  The component of such a key is the key itself, which names no record in an
address: the write arrives at the resource with a slash, or at the parent of the resource.
-/

namespace GridSource

theorem Percent.component_mem_dots_iff (content : String) :
    (component content).toList ∈ [[], ['.'], ['.', '.']] ↔ content ∈ ["", ".", ".."] := by
  have hdots : [[], ['.'], ['.', '.']] =
      ["", ".", ".."].map fun shown => (component shown).toList := by decide
  rw [hdots]
  exact List.mem_map_of_injective fun left right heq =>
    component_injective (String.toList_inj.mp heq)

namespace Store

variable {store : Store} {resource : Address.Layout}

/-- A write to a record of an absolute address asks for an address with the same scheme and
authority.  Without its dot segments, the path is where the component of the key leads from
the path of the resource.  This is one segment behind the resource exactly when the key is
shown by another text than nothing, one dot or two dots. -/
theorem plan_record_iff (hurl : store.url = .text resource.text) :
    (¬ Address.HasDotSegment resource.stem → resource.collection = resource.stem ++ ['/']) ∧
      ∀ operation key planned, Operation.writtenKey? operation = some key →
        store.plan operation = .ok planned →
        ∃ shown record, key.display = .ok shown ∧
          (∀ layout : Address.Layout, planned.url = .text layout.text ↔ layout = record) ∧
          record.scheme = resource.scheme ∧ record.authority = resource.authority ∧
          Address.Arrives resource.collection (Percent.component shown).toList
            (Address.removeDotSegments record.path) ∧
          (Address.IsRecordOf resource.collection (Address.removeDotSegments record.path) ↔
            shown ∉ ["", ".", ".."]) := by
  refine ⟨resource.collection_eq, fun operation key planned hkey hplan => ?_⟩
  obtain ⟨segment, hsegment, hplanned⟩ := url_of_plan hurl hkey hplan
  obtain ⟨shown, hshown, -, rfl⟩ := encodedKey_eq_ok_iff.mp hsegment
  have hcomponent := Percent.isComponent_component shown
  have hslash : '/' ∉ (Percent.component shown).toList :=
    hcomponent.not_mem (by decide) (by decide)
  let record := resource.below (Percent.component shown).toList
    (hcomponent.not_mem (by decide) (by decide)) (hcomponent.not_mem (by decide) (by decide))
  have harrives : Address.Arrives resource.collection (Percent.component shown).toList
      (Address.removeDotSegments record.path) := Address.arrives resource.isRooted_stem hslash
  refine ⟨shown, record, hshown, fun layout => ?_, rfl, rfl, harrives, ?_⟩
  · have hrecord : withoutTrailingSlashes resource.text ++ "/" ++ Percent.component shown =
        record.text := by
      rw [← String.toList_inj, String.toList_append, String.toList_append,
        toList_withoutTrailingSlashes, resource.rdropWhile_text]
      simp [record, Address.Layout.text, Address.Layout.below, Address.Layout.origin]
    rw [hplanned, hrecord, Value.text.injEq, eq_comm, Address.Layout.text_injective.eq_iff]
  · rw [harrives.isRecordOf_iff hslash, Percent.component_mem_dots_iff]

/-- The address of a resource that stands below another one. -/
def usersLayout : Address.Layout :=
  { scheme := "http".toList
    authority := "x".toList
    path := "/api/users/".toList
    schemeFirst := ⟨'h', rfl, by decide⟩
    schemeCharacters := List.forall_iff_forall_mem.mp (by decide)
    hasAuthority := by decide
    authorityCharacters := List.forall_iff_forall_mem.mp (by decide)
    isRooted := .inr rfl
    pathCharacters := by decide }

def nestedStore : Store :=
  { properties := { StoreProperties.default with url := .text "http://x/api/users/" }
    assembler := Assembler.default }

/-- A key that holds a slash arrives at its record, two dots do not. -/
theorem plan_record_iff_nested :
    (∃ planned record, nestedStore.plan (.remove (.text "a/b")) = .ok planned ∧
        planned.url = .text (Address.Layout.text record) ∧
        Address.IsRecordOf "/api/users/".toList (Address.removeDotSegments record.path)) ∧
      ∃ planned record, nestedStore.plan (.remove (.text "..")) = .ok planned ∧
        planned.url = .text (Address.Layout.text record) ∧
        ¬ Address.IsRecordOf "/api/users/".toList (Address.removeDotSegments record.path) := by
  have hurl : nestedStore.url = .text usersLayout.text := rfl
  have hcollection : usersLayout.collection = "/api/users/".toList := by decide +kernel
  have hplan (shown : String) :
      ∃ planned, nestedStore.plan (.remove (.text shown)) = .ok planned := by
    have hkey : nestedStore.encodedKey (.text shown) = .ok (Percent.component shown) :=
      encodedKey_eq_ok_iff.mpr ⟨shown, rfl, Alphabet.encodes_unicode shown, rfl⟩
    rw [plan_remove hurl, hkey]
    exact ⟨_, rfl⟩
  obtain ⟨-, hwrites⟩ := plan_record_iff hurl
  rw [← hcollection]
  constructor
  · obtain ⟨planned, hplanned⟩ := hplan "a/b"
    obtain ⟨shown, record, hshown, hlayout, -, -, -, hrecord⟩ :=
      hwrites _ (.text "a/b") planned rfl hplanned
    obtain rfl : "a/b" = shown := Except.ok.inj hshown
    exact ⟨planned, record, hplanned, (hlayout record).mpr rfl, hrecord.mpr (by decide)⟩
  · obtain ⟨planned, hplanned⟩ := hplan ".."
    obtain ⟨shown, record, hshown, hlayout, -, -, -, hrecord⟩ :=
      hwrites _ (.text "..") planned rfl hplanned
    obtain rfl : ".." = shown := Except.ok.inj hshown
    exact ⟨planned, record, hplanned, (hlayout record).mpr rfl, fun h => hrecord.mp h (by decide)⟩

/-- The removal of two dots arrives at the parent of the resource, which is no record of it. -/
theorem plan_remove_parent :
    ∃ planned record, nestedStore.plan (.remove (.text "..")) = .ok planned ∧
      planned.url = .text (Address.Layout.text record) ∧
      Address.removeDotSegments record.path = "/api/".toList ∧
      ¬ ∃ segment, segment ≠ [] ∧ '/' ∉ segment ∧
        Address.removeDotSegments record.path = "/api/users".toList ++ '/' :: segment := by
  have hparent : Address.removeDotSegments "/api/users/..".toList = "/api/".toList := by
    decide +kernel
  refine ⟨_, usersLayout.below "..".toList (by decide) (by decide), rfl, rfl, hparent, ?_⟩
  rintro ⟨segment, -, -, hpath⟩
  have hlength := congrArg List.length (hparent.symm.trans hpath)
  have hshort : "/api/".toList.length < "/api/users".toList.length := by decide
  rw [List.length_append] at hlength
  omega

end Store

end GridSource
