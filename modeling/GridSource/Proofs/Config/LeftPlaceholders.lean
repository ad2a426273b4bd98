import GridSource.Proofs.Config.ShownValues

/-!
# Placeholders that are left

Resolving replaces the placeholders of a text and of the configured texts it refers to, and puts
every other text in as it is.  Where all texts are well nested and no variable holds a part of a
placeholder, one thing only can leave a placeholder in the result: a default that holds one.  The
main result says that the result holds a placeholder exactly if such a default has been used, and
otherwise is not changed by resolving it again.
-/

namespace GridSource

namespace Placeholder

/-- Nothing but its default stands for a placeholder. -/
def Source.FallsBack (source : Source) (inside : List Char) (default : String) : Prop :=
  ∃ name, split inside = (name, some default) ∧ source.environment.lookup name = none ∧
    source.configured? name = none

/-- In a text, or in one that it leads to, a placeholder falls back to a default that holds the
start of another placeholder. -/
inductive Source.LeavesOpen (source : Source) : String → Prop where
  | default {content default : String} {inside : List Char}
      (hsegment : .placeholder inside ∈ segments content)
      (hdefault : source.FallsBack inside default) (hmarked : isMarked default = true) :
      LeavesOpen source content
  | reference {content next : String} (hrefers : source.Refers content next)
      (hnext : source.LeavesOpen next) : LeavesOpen source content

variable {source : Source} {segment : Segment}

/-- One segment that leaves a placeholder. -/
def Source.LeavesAt (source : Source) (segment : Segment) : Prop :=
  (∃ inside default, segment = .placeholder inside ∧ source.FallsBack inside default ∧
    isMarked default = true) ∨
  ∃ next, source.Reads segment (.reference next) ∧ source.LeavesOpen next

theorem Source.leavesOpen_iff {content : String} :
    source.LeavesOpen content ↔ ∃ segment ∈ segments content, source.LeavesAt segment := by
  constructor
  · intro hleaves
    cases hleaves with
    | default hsegment hdefault hmarked =>
        exact ⟨_, hsegment, .inl ⟨_, _, rfl, hdefault, hmarked⟩⟩
    | reference hrefers hnext =>
        obtain ⟨segment, hsegment, hreads⟩ := hrefers
        exact ⟨segment, hsegment, .inr ⟨_, hreads, hnext⟩⟩
  · rintro ⟨segment, hsegment, ⟨inside, default, rfl, hdefault, hmarked⟩ | ⟨next, hreads, hnext⟩⟩
    · exact .default hsegment hdefault hmarked
    · exact .reference ⟨segment, hsegment, hreads⟩ hnext

/-! ## One segment -/

theorem Source.FallsBack.reads {inside : List Char} {default : String}
    (hdefault : source.FallsBack inside default) :
    source.Reads (.placeholder inside) (.text default) := by
  obtain ⟨name, hname, hvariable, hvalue⟩ := hdefault
  exact .fallback hname hvariable hvalue

theorem Source.leavesAt_reference_iff {next : String}
    (hreads : source.Reads segment (.reference next)) :
    source.LeavesAt segment ↔ source.LeavesOpen next := by
  constructor
  · rintro (⟨inside, default, rfl, hdefault, -⟩ | ⟨other, hother, hleaves⟩)
    · exact Reading.noConfusion (hreads.unique hdefault.reads)
    · obtain rfl := Reading.reference.inj (hreads.unique hother)
      exact hleaves
  · intro hleaves
    exact .inr ⟨next, hreads, hleaves⟩

theorem Source.leavesAt_text_iff {text : String} (hreads : source.Reads segment (.text text)) :
    source.LeavesAt segment ↔
      isMarked text = true ∧ ∃ inside, segment = .placeholder inside ∧
        source.FallsBack inside text := by
  constructor
  · rintro (⟨inside, default, rfl, hdefault, hmarked⟩ | ⟨next, hnext, -⟩)
    · obtain rfl := Reading.text.inj (hreads.unique hdefault.reads)
      exact ⟨hmarked, inside, rfl, hdefault⟩
    · exact Reading.noConfusion (hreads.unique hnext)
  · rintro ⟨hmarked, inside, rfl, hdefault⟩
    exact .inl ⟨inside, text, rfl, hdefault, hmarked⟩

/-- What a text holds of placeholders: the start of one, and any dollar sign at all, exactly if
some proposition holds. -/
structure Shows (text : String) (leaves : Prop) : Prop where
  marked : isMarked text = true ↔ leaves
  dollar : '$' ∈ text.toList ↔ leaves

theorem Shows.of_not_mem {text : String} {leaves : Prop} (hdollar : '$' ∉ text.toList)
    (hleaves : ¬ leaves) : Shows text leaves := by
  constructor
  · exact iff_of_false (fun hmarked => hdollar (mem_of_marks hmarked)) hleaves
  · exact iff_of_false hdollar hleaves

theorem Source.shows_expand {resolve : String → Except Failure String} {text : String}
    (hvariables : ∀ entry ∈ source.environment, IsPlain entry.2.toList)
    (htree : source.tree.HasTexts fun content => Closed content.toList)
    (hresolve : ∀ next text, source.Reads segment (.reference next) →
      resolve next = .ok text → Shows text (source.LeavesOpen next))
    (hcut : segment.IsCut) (htext : source.expand resolve segment = .ok text) :
    Shows text (source.LeavesAt segment) := by
  obtain ⟨reading, hreads⟩ := source.exists_reads segment
  rw [hreads.expand_eq] at htext
  have hplain : reading = .text text → '$' ∉ text.toList →
      Shows text (source.LeavesAt segment) := by
    rintro rfl hdollar
    apply Shows.of_not_mem hdollar
    rw [leavesAt_text_iff hreads]
    exact fun hleaves => hdollar (mem_of_marks hleaves.1)
  have hrule := hreads
  cases hrule with
  | character value =>
      obtain rfl := Except.ok.inj htext
      apply hplain rfl
      cases hcut with
      | character hvalue => simpa using hvalue.symm
  | @environment _ name value _ hname hvariable =>
      obtain rfl := Except.ok.inj htext
      obtain ⟨before, after, hentry, -⟩ := List.lookup_eq_some_iff.mp hvariable
      exact hplain rfl (hvariables (name, value) (by simp [hentry])).dollar_not_mem
  | configured hname hvariable hvalue hshown hmarked =>
      obtain rfl := Except.ok.inj htext
      have hclosed := Value.closed_of_display (source.hasTexts_of_configured? htree hvalue) hshown
      exact hplain rfl (hclosed.dollar_not_mem hmarked)
  | reference hname hvariable hvalue hshown hmarked =>
      rw [leavesAt_reference_iff hreads]
      exact hresolve _ text hreads htext
  | @fallback inside name default hname hvariable hvalue =>
      obtain rfl := Except.ok.inj htext
      have hleaves : source.LeavesAt (.placeholder inside) ↔ isMarked default = true := by
        rw [leavesAt_text_iff hreads, and_iff_left]
        exact ⟨inside, rfl, name, hname, hvariable, hvalue⟩
      rw [hleaves]
      exact ⟨Iff.rfl, (marks_default_iff hcut hname).symm⟩
  | unresolved | unwritable => contradiction

/-! ## All segments of a text -/

theorem Shows.append {left right : String} {first rest : Prop} (hleft : Shows left first)
    (hright : Shows right rest) : Shows (left ++ right) (first ∨ rest) := by
  have hdollar : '$' ∈ (left ++ right).toList ↔ first ∨ rest := by
    rw [String.toList_append, List.mem_append, hleft.dollar, hright.dollar]
  refine ⟨⟨fun hmarked => hdollar.mp (mem_of_marks hmarked), ?_⟩, hdollar⟩
  rw [isMarked, String.toList_append]
  rintro (hfirst | hrest)
  · exact marks_append_left (hleft.marked.mpr hfirst) _
  · exact marks_append_right _ (hright.marked.mpr hrest)

/-- Texts put together hold what one of them holds. -/
theorem Shows.join {α : Type} {leaves : α → Prop} {items : List α} {texts : List String}
    (htexts : List.Forall₂ (fun item text => Shows text (leaves item)) items texts) :
    Shows (String.join texts) (∃ item ∈ items, leaves item) := by
  induction htexts with
  | nil => exact .of_not_mem (by simp) (by simp)
  | cons hfirst _ ih =>
      rw [String.join_cons, List.exists_mem_cons_iff]
      exact hfirst.append ih

/-- A text that is referred to is the value of a key. -/
theorem Source.closed_of_reference (htree : source.tree.HasTexts fun content =>
    Closed content.toList) {next : String} (hreads : source.Reads segment (.reference next)) :
    Closed next.toList := by
  cases hreads with
  | reference _ _ hvalue hshown _ =>
      exact Value.closed_of_display (source.hasTexts_of_configured? htree hvalue) hshown

theorem Source.shows_resolveWithin
    (hvariables : ∀ entry ∈ source.environment, IsPlain entry.2.toList)
    (htree : source.tree.HasTexts fun content => Closed content.toList) {levels : Nat}
    {content result : String} (hcontent : Closed content.toList)
    (hresult : source.resolveWithin levels content = .ok result) :
    Shows result (source.LeavesOpen content) := by
  induction levels generalizing content result with
  | zero => contradiction
  | succ levels ih =>
      rw [resolveWithin_succ] at hresult
      obtain ⟨texts, htexts, rfl⟩ := Outcome.map_eq_ok_iff.mp hresult
      rw [leavesOpen_iff]
      apply Shows.join
      have hsegments := (List.forall₂_and_left _ _).mpr
        ⟨isCut_of_mem_segments hcontent, Outcome.mapM_eq_ok_iff.mp htexts⟩
      refine hsegments.imp fun segment text hsegment => ?_
      refine shows_expand hvariables htree (fun next shown hreads hnext => ?_) hsegment.1 hsegment.2
      exact ih (closed_of_reference htree hreads) hnext

/-- The result of resolving a well-nested text among well-nested texts holds the start of a
placeholder exactly if some default that holds one has been used.  Otherwise resolving the
result again changes nothing. -/
theorem Source.isMarked_resolve_iff
    (hvariables : ∀ entry ∈ source.environment, IsPlain entry.2.toList)
    (htree : source.tree.HasTexts fun content => WellNested content.toList)
    {content result : String} (hcontent : WellNested content.toList)
    (hresult : source.resolve content = .ok result) :
    (isMarked result = true ↔ source.LeavesOpen content) ∧
      (¬ source.LeavesOpen content → source.resolve result = .ok result) := by
  have hclosed := htree.mono fun _ => WellNested.closed
  have hmarked := (shows_resolveWithin hvariables hclosed hcontent.closed hresult).marked
  refine ⟨hmarked, fun hleaves => ?_⟩
  apply source.resolve_of_unmarked
  rwa [← hmarked, Bool.not_eq_true] at hleaves

/-- An address whose host is a variable. -/
def hosted : Source :=
  { tree := .record [("base", .text "http://$\x7bHOST\x7d")]
    environment := [("HOST", "grid.test")] }

theorem hasTexts_hosted : hosted.tree.HasTexts fun content => WellNested content.toList := by
  have haddress : WellNested "http://$\x7bHOST\x7d".toList :=
    @WellNested.append "http://".toList _ (.plain (by decide))
      (@WellNested.named "HOST".toList ⟨by decide, by decide, by decide⟩)
  rw [hosted, Value.record]
  constructor
  · rw [List.map_singleton, List.forall_mem_singleton]
    exact .text (.plain (by decide))
  · rw [List.map_singleton, List.forall_mem_singleton]
    exact .text haddress

theorem wellNested_base : WellNested "$\x7bbase\x7d".toList :=
  @WellNested.named "base".toList ⟨by decide, by decide, by decide⟩

theorem wellNested_page : WellNested "$\x7bpage:$\x7bfirst:1\x7d\x7d".toList :=
  @WellNested.defaulted "page".toList _ ⟨by decide, by decide, by decide⟩
    (@WellNested.defaulted "first".toList "1".toList ⟨by decide, by decide, by decide⟩
      (.plain (by decide)))

theorem isMarked_resolve_iff_hosted :
    hosted.resolve "$\x7bbase\x7d" = .ok "http://grid.test" ∧
      ¬ hosted.LeavesOpen "$\x7bbase\x7d" ∧
      hosted.resolve "http://grid.test" = .ok "http://grid.test" ∧
      hosted.LeavesOpen "$\x7bpage:$\x7bfirst:1\x7d\x7d" := by
  have hvariables : ∀ entry ∈ hosted.environment, IsPlain entry.2.toList := by decide
  have hbase : hosted.resolve "$\x7bbase\x7d" = .ok "http://grid.test" := by decide +kernel
  have hpage : hosted.resolve "$\x7bpage:$\x7bfirst:1\x7d\x7d" = .ok "$\x7bfirst:1\x7d" := by
    decide +kernel
  obtain ⟨hmarked, hagain⟩ :=
    Source.isMarked_resolve_iff hvariables hasTexts_hosted wellNested_base hbase
  have hleaves : ¬ hosted.LeavesOpen "$\x7bbase\x7d" := by
    rw [← hmarked]
    decide
  refine ⟨hbase, hleaves, hagain hleaves, ?_⟩
  exact (Source.isMarked_resolve_iff hvariables hasTexts_hosted wellNested_page hpage).1.mp
    (by decide)

/-- A default that is a placeholder is left as it stands, and then resolved if it is read again. -/
theorem resolve_nested_default :
    (∀ entry ∈ hosted.environment, IsPlain entry.2.toList) ∧
      (hosted.tree.HasTexts fun content => WellNested content.toList) ∧
      WellNested "$\x7bpage:$\x7bfirst:1\x7d\x7d".toList ∧
      hosted.resolve "$\x7bpage:$\x7bfirst:1\x7d\x7d" = .ok "$\x7bfirst:1\x7d" ∧
      isMarked "$\x7bfirst:1\x7d" = true ∧
      hosted.resolve "$\x7bfirst:1\x7d" = .ok "1" :=
  ⟨by decide, hasTexts_hosted, wellNested_page, by decide +kernel, by decide, by decide +kernel⟩

end Placeholder

end GridSource
