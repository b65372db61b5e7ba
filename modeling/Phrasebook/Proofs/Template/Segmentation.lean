import Mathlib.Data.List.Chain
import Phrasebook.Proofs.Template.Scan

/-!
# The parts of a template and the marks of its text

Reading a text follows its scan. If no mark shows an integer with a precision, the template has the
marks in order and the text between them in runs; otherwise the first such mark is refused.
-/

namespace Phrasebook

/-- A run of text that is shown as it is written. -/
def Segment.isPlain : Segment → Bool
  | .literal source value => source == value
  | .directive _ => false

theorem Segment.isPlain_literal (text : String) : (Segment.literal text text).isPlain = true :=
  beq_self_eq_true text

namespace Template

/-- The parts of a template beside the marks of its text. Between the marks stand runs of text. -/
structure Cut (segments : List Segment) (marks : List Mark) : Prop where
  /-- The parts other than runs are those of the marks in order. -/
  marks : segments.filter (!·.isPlain) = marks.map Mark.segment
  /-- No run is empty. -/
  nonempty : ∀ s ∈ segments, s.isPlain = true → s.source ≠ ""
  /-- No two runs are adjacent. -/
  apart : segments.IsChain fun s s' => ¬ (s.isPlain = true ∧ s'.isPlain = true)
  /-- No mark begins inside a run. -/
  clear : ∀ before s after, segments = before ++ s :: after → s.isPlain = true →
    Clear s.source.toList (sourceChars after)

/-- What the marks of a text make of reading it. -/
inductive Settles (marks : List Mark) : Except Directive (List Segment) → Prop
  /-- No mark is refused, and the parts are cut at the marks. -/
  | ok {segments : List Segment} (hmarks : ∀ m ∈ marks, ¬ m.Refused) (hcut : Cut segments marks) :
      Settles marks (.ok segments)
  /-- The first mark that is refused is named. -/
  | error {before after : List Mark} {d : Directive}
      (hmarks : marks = before ++ .directive d :: after) (hd : (Mark.directive d).Refused)
      (hbefore : ∀ m ∈ before, ¬ m.Refused) : Settles marks (.error d)

section Parts

variable {segments : List Segment} {marks : List Mark} {mark : Mark}

theorem Mark.isPlain_segment (mark : Mark) : mark.segment.isPlain = false := by
  cases mark <;> rfl

theorem Mark.toList_source_segment (mark : Mark) : mark.segment.source.toList = mark.source := by
  cases mark <;> rfl

theorem Mark.directive?_segment (mark : Mark) : mark.segment.directive? = mark.directive? := by
  cases mark <;> rfl

/-- A mark is refused by the test that reading makes. -/
theorem refused_iff {d : Directive} : (Mark.directive d).Refused ↔
    (d.conversion.isInteger && d.precision.isSome) = true := by
  rw [Bool.and_eq_true, Option.isSome_iff_ne_none]
  refine and_congr_left fun _ => ?_
  cases d.conversion <;> decide

theorem cut_nil : Cut [] [] where
  marks := rfl
  nonempty := nofun
  apart := .nil
  clear before s after h := by simp at h

/-- A mark in front of parts is one of them. -/
theorem Cut.cons (h : Cut segments marks) (mark : Mark) :
    Cut (mark.segment :: segments) (mark :: marks) where
  marks := by simp [mark.isPlain_segment, h.marks]
  nonempty := by
    refine List.forall_mem_cons.mpr ⟨fun hplain => ?_, h.nonempty⟩
    rw [mark.isPlain_segment] at hplain
    cases hplain
  apart := by
    refine List.isChain_cons.mpr ⟨fun s _ hplain => ?_, h.apart⟩
    rw [mark.isPlain_segment] at hplain
    cases hplain.1
  clear before s after hsplit hplain := by
    rcases List.cons_eq_append_iff.mp hsplit with ⟨-, hs⟩ | ⟨before', -, hs⟩
    · rw [(List.cons.inj hs).1, mark.isPlain_segment] at hplain
      cases hplain
    · exact h.clear before' s after hs hplain

/-- A run without a mark may stand in front of a part that is none. -/
theorem Cut.flush {run : List Char} (h : Cut segments marks)
    (hrun : Clear run.reverse (sourceChars segments))
    (hhead : ∀ s ∈ segments.head?, s.isPlain = false) : Cut (flush run segments) marks := by
  cases run with
  | nil => exact h
  | cons c run =>
      have hflush : Template.flush (c :: run) segments =
          .literal (String.ofList (c :: run).reverse) (String.ofList (c :: run).reverse) ::
            segments := rfl
      rw [hflush]
      constructor
      · simp [Segment.isPlain_literal, h.marks]
      · refine List.forall_mem_cons.mpr ⟨fun _ => ?_, h.nonempty⟩
        simp [Segment.source]
      · refine List.isChain_cons.mpr ⟨fun s hs hplain => ?_, h.apart⟩
        rw [hhead s hs] at hplain
        cases hplain.2
      · intro before s after hsplit hplain
        rcases List.cons_eq_append_iff.mp hsplit with ⟨-, hs⟩ | ⟨before', -, hs⟩
        · obtain ⟨rfl, rfl⟩ := List.cons.inj hs
          simpa only [Segment.source, String.toList_ofList] using hrun
        · exact h.clear before' s after hs hplain

/-- The directives of the parts are those of the marks. -/
theorem Cut.directives (h : Cut segments marks) :
    segments.filterMap Segment.directive? = marks.filterMap Mark.directive? := by
  have hplain : segments.filterMap Segment.directive? =
      (segments.filter (!·.isPlain)).filterMap Segment.directive? := by
    rw [List.filterMap_filter]
    refine List.filterMap_congr fun s _ => ?_
    cases s with
    | literal source value => simp [Segment.directive?]
    | directive d => rfl
  rw [hplain, h.marks, List.filterMap_map]
  exact List.filterMap_congr fun mark _ => mark.directive?_segment

end Parts

section Reading

variable {run text rest : List Char} {marks others : List Mark} {mark : Mark}
  {outcome : Except Directive (List Segment)}

/-- A mark that is not refused, with the run in front of it, is put before what was read behind
it. -/
theorem Settles.next (h : Settles others outcome) (hmark : ¬ mark.Refused)
    (hrun : ∀ segments, outcome = .ok segments →
      Clear run.reverse (mark.source ++ sourceChars segments)) :
    Settles (mark :: others) (do return flush run (mark.segment :: (← outcome))) := by
  cases h with
  | @ok segments hothers hcut =>
      refine .ok (List.forall_mem_cons.mpr ⟨hmark, hothers⟩) ((hcut.cons mark).flush ?_ ?_)
      · have hclear := hrun segments rfl
        rwa [← mark.toList_source_segment] at hclear
      · rintro s ⟨⟩
        exact mark.isPlain_segment
  | @error before after d hothers hd hbefore =>
      subst hothers
      exact .error rfl hd (List.forall_mem_cons.mpr ⟨hmark, hbefore⟩)

/-- Reading a text makes of it what its marks do, where no mark begins in the run that is being
read. -/
theorem settles_segmentsAfter (hrun : Clear run.reverse text)
    (h : Scan (run.reverse ++ text) marks) : Settles marks (segmentsAfter run text) := by
  have hbehind {rest : List Char} {segments : List Segment}
      (hs : segmentsAfter [] rest = .ok segments) : sourceChars segments = rest :=
    sourceChars_of_segmentsAfter hs
  -- A mark ends the run and the scan goes on behind it; any other character joins the run, in which
  -- no mark begins then, either.
  fun_induction segmentsAfter run text generalizing marks with
  | case1 run =>
      rw [List.append_nil] at h
      obtain rfl := h.eq_nil hrun
      exact .ok (List.forall_mem_nil _)
        (cut_nil.flush hrun fun s hs => absurd hs (Option.not_mem_none s))
  | case2 run rest ih =>
      have htext : '%' :: '%' :: rest = Mark.escape.source ++ rest := rfl
      rw [htext] at h hrun
      obtain ⟨others, rfl, hothers⟩ := h.exists_cons rfl hrun trivial
      refine (ih (clear_nil rest) hothers).next id fun segments hs => ?_
      rwa [hbehind hs]
  | case3 run rest _ d rest' hread hrefused =>
      obtain ⟨hd, hsource⟩ := Directive.read?_eq_some_iff.mp hread
      have htext : '%' :: rest = (Mark.directive d).source ++ rest' := hsource.symm
      rw [htext] at h hrun
      obtain ⟨others, rfl, -⟩ := h.exists_cons rfl hrun hd
      exact .error (List.nil_append _).symm (refused_iff.mpr hrefused) (List.forall_mem_nil _)
  | case4 run rest _ d rest' hread hrefused ih =>
      obtain ⟨hd, hsource⟩ := Directive.read?_eq_some_iff.mp hread
      have htext : '%' :: rest = (Mark.directive d).source ++ rest' := hsource.symm
      rw [htext] at h hrun
      obtain ⟨others, rfl, hothers⟩ := h.exists_cons rfl hrun hd
      refine (ih (clear_nil rest') hothers).next (mt refused_iff.mp hrefused) fun segments hs => ?_
      rwa [hbehind hs]
  | case5 run rest hescape hread ih =>
      refine ih ?_ (by simpa using h)
      rw [List.reverse_cons]
      exact hrun.snoc (not_begins_percent hescape hread)
  | case6 run c rest hescape hpercent ih =>
      refine ih ?_ (by simpa using h)
      rw [List.reverse_cons]
      exact hrun.snoc (not_begins_of_ne hpercent rest)

theorem settles_of_scan (h : Scan text marks) : Settles marks (segmentsAfter [] text) := by
  have hrun : Clear ([] : List Char).reverse text := clear_nil text
  exact settles_segmentsAfter hrun h

/-- A text is refused with the directive that reading stops at. -/
theorem ofText_of_error {text : String} {d : Directive}
    (h : segmentsAfter [] text.toList = .error d) (span : Option Span) :
    ofText text span = .error (.placeholderUnsupported d.source precisionReason span) := by
  simp only [ofText, parse, h]
  rfl

theorem parse_of_ok {text : String} {segments : List Segment}
    (h : segmentsAfter [] text.toList = .ok segments) : parse text = .ok ⟨segments⟩ := by
  rw [parse, h]
  rfl

/-- The directives of a template that is read are well formed, and none of them is refused. -/
theorem accepted_of_parse {text : String} {t : Template} (h : parse text = .ok t) :
    ∀ d ∈ t.directives, d.WellFormed ∧ ¬ (Mark.directive d).Refused := by
  obtain ⟨segments, hs, rfl⟩ := map_eq_ok_iff.mp h
  obtain ⟨marks, hscan⟩ := Scan.exists_of_text text.toList
  have hsettles := settles_of_scan hscan
  rw [hs] at hsettles
  obtain ⟨hmarks, hcut⟩ := hsettles
  intro d hd
  have hmem : d ∈ marks.filterMap Mark.directive? := hcut.directives ▸ hd
  obtain ⟨mark, hmark, hd⟩ := List.mem_filterMap.mp hmem
  cases mark with
  | escape => cases hd
  | directive d' =>
      obtain rfl := Option.some.inj hd
      exact ⟨hscan.wellFormed _ hmark, hmarks _ hmark⟩

theorem wellFormed_of_parse {text : String} {t : Template} (h : parse text = .ok t) :
    ∀ d ∈ t.directives, d.WellFormed :=
  fun d hd => (accepted_of_parse h d hd).1

/-- Every text has one scan. It is refused exactly if one of its marks is, with the first such mark
named, and the parts of its template are otherwise cut at the marks. -/
theorem ofText_segments_follow_scan (text : String) (span : Option Span) :
    ∃ marks, (∀ marks', Scan text.toList marks' ↔ marks' = marks) ∧
      ((∃ fault, ofText text span = .error fault) ↔ ∃ m ∈ marks, m.Refused) ∧
      (∀ fault, ofText text span = .error fault →
        fault.category = .malformedPlaceholder ∧ ∃ before d after,
          marks = before ++ .directive d :: after ∧ (Mark.directive d).Refused ∧
          (∀ m ∈ before, ¬ m.Refused) ∧
          fault = .placeholderUnsupported d.source precisionReason span) ∧
      (∀ t, ofText text span = .ok t →
        t.source = text ∧ t.directives = marks.filterMap Mark.directive? ∧
        t.arity = (marks.filterMap Mark.directive?).length ∧ Cut t.segments marks) := by
  obtain ⟨marks, hscan⟩ := Scan.exists_of_text text.toList
  have hunique (marks' : List Mark) : Scan text.toList marks' ↔ marks' = marks :=
    ⟨hscan.unique, fun h => h ▸ hscan⟩
  refine ⟨marks, hunique, ?_⟩
  have hsettles := settles_of_scan hscan
  cases hread : segmentsAfter [] text.toList with
  | error d =>
      rw [hread] at hsettles
      obtain _ | @⟨before, after, _, hmarks, hd, hbefore⟩ := hsettles
      rw [ofText_of_error hread span]
      refine ⟨⟨fun _ => ⟨.directive d, by simp [hmarks], hd⟩, fun _ => ⟨_, rfl⟩⟩, ?_, nofun⟩
      rintro fault ⟨⟩
      exact ⟨rfl, before, d, after, hmarks, hd, hbefore, rfl⟩
  | ok segments =>
      have hparse := parse_of_ok hread
      have hof : ofText text span = .ok ⟨segments⟩ := by rw [ofText, hparse]
      rw [hread] at hsettles
      obtain ⟨hmarks, hcut⟩ := hsettles
      rw [hof]
      refine ⟨⟨nofun, fun ⟨m, hm, hrefused⟩ => absurd hrefused (hmarks m hm)⟩, nofun, ?_⟩
      rintro t ⟨⟩
      exact ⟨source_of_parse hparse, hcut.directives, congrArg List.length hcut.directives, hcut⟩

end Reading

end Template

end Phrasebook
