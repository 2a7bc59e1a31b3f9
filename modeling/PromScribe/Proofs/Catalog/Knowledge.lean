import Mathlib.Data.List.Flatten
import PromScribe.Catalog.Template
import PromScribe.Proofs.Keyed
import PromScribe.Proofs.Text.ByteOrder
import PromScribe.Proofs.Text.Substitution

/-!
# Templates for a question

What knowledge offers is told by the history of its registrations: of each concept only the last one
counts, concepts come in the order of their bytes, and what one of them offers is a stretch of the
whole that no other concept changes.
-/

namespace PromScribe

/-- Each category occurs in one of the names. -/
def Template.Covered (names : List String) (template : Template) : Prop :=
  ∀ category ∈ template.categories, ∃ name ∈ names, category.toList <:+: name.toList

theorem Template.isCoveredBy_iff {names : List String} {template : Template} :
    template.isCoveredBy names = true ↔ template.Covered names := by
  simp only [isCoveredBy, Covered, List.all_eq_true, List.any_eq_true, Text.hasPart_iff]

instance (names : List String) (template : Template) : Decidable (template.Covered names) :=
  decidable_of_iff _ Template.isCoveredBy_iff

namespace Knowledge

open Text

variable {history : List (String × List Template)} {concept : String} {templates : List Template}
variable {question : String} {names : List String}

/-- The templates that the history registers last for the concept. -/
def Registers (history : List (String × List Template)) (concept : String)
    (templates : List Template) : Prop :=
  ∃ earlier later, history = earlier ++ (concept, templates) :: later ∧
    ∀ entry ∈ later, entry.1 ≠ concept

/-- The knowledge after a history of registrations has the last one of each concept. -/
theorem registers_iff :
    Registers history concept templates ↔
      (concept, templates) ∈ (Keyed.ofList history).entries := by
  rw [← Keyed.get?_eq_some_iff, Keyed.get?_ofList, List.lookup_eq_some_iff]
  constructor
  · rintro ⟨earlier, later, rfl, last⟩
    refine ⟨later.reverse, earlier.reverse, by simp, fun entry mem => ?_⟩
    exact bne_iff_ne.mpr (last entry (List.mem_reverse.mp mem)).symm
  · rintro ⟨later, earlier, reversed, last⟩
    refine ⟨earlier.reverse, later.reverse, ?_, fun entry mem => ?_⟩
    · rw [← List.reverse_reverse history, reversed]
      simp
    · exact (bne_iff_ne.mp (last entry (List.mem_reverse.mp mem))).symm

/-- The question, in lower case, has the concept in it, as it is spelled or with blanks for its
underscores. -/
def Names (question concept : String) : Prop :=
  concept.toList <:+: lower question.toList ∨
    (concept.toList.map fun c => if c = '_' then ' ' else c) <:+: lower question.toList

theorem isNamed_iff : isNamed concept (lower question.toList) = true ↔ Names question concept := by
  simp only [isNamed, Names, Bool.or_eq_true, occurs_iff]

instance (question concept : String) : Decidable (Names question concept) :=
  decidable_of_iff _ isNamed_iff

/-- What a concept offers for a question where some metrics are known. -/
def offered (question : String) (names : List String) (entry : String × List Template) :
    List Template :=
  entry.2.filter fun template => Names question entry.1 ∧ template.Covered names

/-- Each concept offers its own templates. -/
theorem find_eq (knowledge : Knowledge) (question : String) (names : List String) :
    knowledge.find question names = knowledge.entries.flatMap (offered question names) := by
  unfold find
  dsimp only
  induction knowledge.entries with
  | nil => rfl
  | cons entry entries ih =>
      have covered : (fun template : Template => template.isCoveredBy names) =
          fun template => decide (template.Covered names) := by
        funext template
        rw [Bool.eq_iff_iff, Template.isCoveredBy_iff, decide_eq_true_iff]
      rw [List.flatMap_cons, ← ih, List.filter_cons]
      split
      · next named =>
          rw [List.flatMap_cons, covered]
          simp only [offered, isNamed_iff.mp named, true_and]
      · next unnamed =>
          have silent : ¬ Names question entry.1 := fun named => unnamed (isNamed_iff.mpr named)
          simp only [offered, silent, false_and, decide_false, List.filter_false, List.nil_append]

/-- With more known metrics a template that was covered still is. -/
theorem offered_sublist {more : List String} (known : names ⊆ more)
    (entry : String × List Template) :
    (offered question names entry).Sublist (offered question more entry) := by
  refine List.monotone_filter_right _ fun template => ?_
  simp only [decide_eq_true_eq]
  rintro ⟨named, covered⟩
  refine ⟨named, fun category mem => ?_⟩
  obtain ⟨name, listed, occurs⟩ := covered category mem
  exact ⟨name, known listed, occurs⟩

/-- A registration puts what its concept offers between what concepts before and behind it do. -/
theorem find_insert (knowledge : Knowledge) (concept : String) (templates : List Template) :
    find (Keyed.insert knowledge concept templates) question names =
      (knowledge.entriesBefore concept).flatMap (offered question names) ++
        offered question names (concept, templates) ++
          (knowledge.entriesBehind concept).flatMap (offered question names) := by
  rw [find_eq, Keyed.entries_insert, List.flatMap_append, List.flatMap_cons, List.append_assoc]

/-- After any history of registrations a question is offered, concept by concept in the order of
bytes, the covered templates of the last registration of each concept that it names. With more known
metrics there are only more templates, and a concept that is registered once more changes nothing
but the stretch that it offers itself. -/
theorem find_registered (history : List (String × List Template)) (question : String)
    (names : List String) :
    (∃ registered : List (String × List Template),
        registered.Pairwise (fun first second => bytes first.1.toList < bytes second.1.toList) ∧
          (∀ concept templates,
            (concept, templates) ∈ registered ↔ Registers history concept templates) ∧
            find (Keyed.ofList history) question names =
              registered.flatMap (offered question names)) ∧
      (∀ more, names ⊆ more →
        (find (Keyed.ofList history) question names).Sublist
          (find (Keyed.ofList history) question more)) ∧
        ∀ concept, ∃ before behind,
          find (Keyed.ofList (history.filter fun entry => entry.1 ≠ concept)) question names =
              before ++ behind ∧
            (∀ templates, Registers history concept templates →
              find (Keyed.ofList history) question names =
                before ++ offered question names (concept, templates) ++ behind) ∧
              ∀ templates,
                find (Keyed.ofList (history ++ [(concept, templates)])) question names =
                  before ++ offered question names (concept, templates) ++ behind := by
  refine ⟨⟨(Keyed.ofList history).entries, ?_, fun concept templates => registers_iff.symm,
    find_eq _ question names⟩, fun more known => ?_, fun concept => ?_⟩
  · exact (Keyed.ofList history).ascending.imp lt_iff_bytes_lt.mp
  · rw [find_eq, find_eq]
    exact List.Sublist.flatMap_right _ fun entry _ => offered_sublist known entry
  · refine ⟨((Keyed.ofList history).entriesBefore concept).flatMap (offered question names),
      ((Keyed.ofList history).entriesBehind concept).flatMap (offered question names), ?_,
      fun templates registered => ?_, fun templates => ?_⟩
    · rw [Keyed.ofList_filter history (· ≠ concept), find_eq, Keyed.entries_filterKeys_ne,
        List.flatMap_append]
    · have stands := Keyed.get?_eq_some_iff.mpr (registers_iff.mp registered)
      rw [← find_insert, Keyed.insert_of_get? stands]
    · rw [Keyed.ofList_concat, find_insert]

/-- A history where a concept is registered again, and one has its name in common with another. -/
def renewedHistory : List (String × List Template) :=
  [("latency", latencyTemplates), ("rate", [⟨"rate(x[time])", [], [], []⟩]),
    ("error_rate", errorTemplates), ("latency", [⟨"max(duration)", [], [], ["duration"]⟩])]

/-- The last templates count, the concepts are in the order of bytes, and more metrics add to what
is offered. -/
theorem find_registered_renewed :
    ((find (Keyed.ofList renewedHistory) "Error Rate or LATENCY?" ["http_errors_total"]).map
        Template.pattern = ["rate(errors[time]) / rate(total[time])",
          "sum(rate(errors\x7bstatus=~\"5..\"\x7d[time])) / sum(rate(total[time]))",
          "rate(x[time])"]) ∧
      (find (Keyed.ofList renewedHistory) "Error Rate or LATENCY?" ["http_errors_total"]).Sublist
        (find (Keyed.ofList renewedHistory) "Error Rate or LATENCY?"
          ["duration", "http_errors_total"]) := by
  refine ⟨by decide +kernel, ?_⟩
  obtain ⟨-, grows, -⟩ :=
    find_registered renewedHistory "Error Rate or LATENCY?" ["http_errors_total"]
  exact grows _ (List.subset_cons_self _ _)

end Knowledge

end PromScribe
