import PromScribe.Proofs.Text.Passage

/-!
# Places of accepted runs

The places of a sweep's accepted runs are counted in bytes. Each of them is that of a run which is
accepted there, and a place at which a run would be accepted lies within one of them: there, or
behind the beginning of a run that is accepted earlier.
-/

namespace PromScribe.Text

variable {α : Type} {recognise : Recogniser α} {before : Option Char}
variable {text front place left right rest : List Char} {span : Span α} {skip offset : Nat}

theorem byteLength_pos (nonempty : text ≠ []) : 0 < byteLength text := by
  have length := List.length_pos_iff.mpr nonempty
  have bound := length_le_byteLength text
  omega

/-- Of two beginnings of a text, the one that has no more bytes begins the other one. -/
theorem exists_of_byteLength_le (same : left ++ place = right ++ rest)
    (within : byteLength left ≤ byteLength right) :
    ∃ between, right = left ++ between ∧ place = between ++ rest := by
  rcases List.append_eq_append_iff.mp same with ⟨between, longer, others⟩ | ⟨between, longer, others⟩
  · exact ⟨between, longer, others⟩
  · rw [longer, byteLength_append] at within
    have none : between = [] := by
      by_contra some_char
      have size := byteLength_pos some_char
      omega
    subst none
    exact ⟨[], by simpa using longer.symm, by simpa using others.symm⟩

/-- The run of the span is accepted behind `front`, where the span begins. -/
structure Accepts (recognise : Recogniser α) (before : Option Char) (front place : List Char)
    (span : Span α) : Prop where
  nonempty : place ≠ []
  accepted : ∃ extra, recognise (lastOf before front) place = some ⟨extra, span.value⟩ ∧
    span.text = place.take (extra + 1)
  stop_eq : span.stop = span.start + byteLength span.text

/-- Every span of a sweep is that of an accepted run. The sweep's offset lies behind the characters
that are skipped. -/
theorem exists_of_mem_spansFrom
    (mem : span ∈ spansFrom offset (sweepFrom recognise before skip text)) :
    ∃ front place, text = front ++ place ∧ Accepts recognise before front place span ∧
      span.start + byteLength (text.take skip) = offset + byteLength front := by
  induction text generalizing before skip offset with
  | nil => cases mem
  | cons c rest ih =>
      have later {skip offset : Nat}
          (mem : span ∈ spansFrom offset (sweepFrom recognise (some c) skip rest)) :
          ∃ front place, c :: rest = front ++ place ∧ Accepts recognise before front place span ∧
            span.start + byteLength (rest.take skip) + c.utf8Size = offset + byteLength front := by
        obtain ⟨front, place, split, accepts, start⟩ := ih mem
        refine ⟨c :: front, place, congrArg (c :: ·) split, ?_, ?_⟩
        · exact ⟨accepts.nonempty, accepts.accepted, accepts.stop_eq⟩
        · simp only [byteLength]
          omega
      cases skip with
      | succ skip =>
          obtain ⟨front, place, split, accepts, start⟩ := later mem
          refine ⟨front, place, split, accepts, ?_⟩
          simp only [List.take_succ_cons, byteLength]
          omega
      | zero =>
          simp only [sweepFrom] at mem
          split at mem
          · next hit accepted =>
              rcases List.mem_cons.mp mem with rfl | there
              · have begins : c :: rest ≠ [] := List.cons_ne_nil c rest
                exact ⟨[], c :: rest, rfl, ⟨begins, ⟨hit.extra, accepted, rfl⟩, rfl⟩, rfl⟩
              · obtain ⟨front, place, split, accepts, start⟩ := later there
                refine ⟨front, place, split, accepts, ?_⟩
                simp only [byteLength, List.take_zero] at start ⊢
                omega
          · obtain ⟨front, place, split, accepts, start⟩ := later mem
            refine ⟨front, place, split, accepts, ?_⟩
            simp only [byteLength, List.take_zero] at start ⊢
            omega

theorem exists_of_mem_spansOf (mem : span ∈ spansOf recognise text) :
    ∃ front place, text = front ++ place ∧ Accepts recognise none front place span ∧
      span.start = byteLength front := by
  obtain ⟨front, place, split, accepts, start⟩ := exists_of_mem_spansFrom mem
  refine ⟨front, place, split, accepts, ?_⟩
  simpa [byteLength] using start

/-- A place among the skipped characters lies before their end. -/
theorem byteLength_lt_of_skipped {c : Char} (skipped : front.length < skip) :
    byteLength front < byteLength ((front ++ c :: rest).take skip) := by
  obtain ⟨more, rfl⟩ := Nat.exists_eq_add_of_lt skipped
  have size := Char.utf8Size_pos c
  have covers : (front ++ c :: rest).take (front.length + more + 1) =
      front ++ c :: rest.take more := by
    rw [Nat.add_assoc, List.take_length_add_append, List.take_succ_cons]
  rw [covers, byteLength_append]
  simp only [byteLength]
  omega

/-- Where a run would be accepted, a span lies over the place, or the place is skipped. -/
theorem exists_span_of_accepted {c : Char} {hit : Hit α}
    (accepted : recognise (lastOf before front) (c :: rest) = some hit) :
    front.length < skip ∨
      ∃ span ∈ spansFrom offset (sweepFrom recognise before skip (front ++ c :: rest)),
        span.start + byteLength ((front ++ c :: rest).take skip) ≤ offset + byteLength front ∧
          offset + byteLength front < span.stop + byteLength ((front ++ c :: rest).take skip) := by
  induction front generalizing before skip offset with
  | nil =>
      cases skip with
      | succ skip => exact .inl (Nat.succ_pos skip)
      | zero =>
          right
          have here : recognise before (c :: rest) = some hit := accepted
          have size := Char.utf8Size_pos c
          simp only [List.nil_append, sweepFrom, here, spansFrom]
          refine ⟨_, List.mem_cons_self, ?_⟩
          simp only [byteLength, List.take_zero]
          omega
  | cons d front ih =>
      cases skip with
      | succ skip =>
          apply (ih accepted).imp Nat.succ_lt_succ
          rintro ⟨span, mem, above, below⟩
          refine ⟨span, mem, ?_⟩
          simp only [List.cons_append, List.take_succ_cons, byteLength]
          omega
      | zero =>
          right
          simp only [List.cons_append, sweepFrom]
          cases found : recognise before (d :: (front ++ c :: rest)) with
          | none =>
              obtain ⟨span, mem, above, below⟩ := (ih accepted).resolve_left (Nat.not_lt_zero _)
              refine ⟨span, mem, ?_⟩
              simp only [byteLength, List.take_zero] at above below ⊢
              omega
          | some earlier =>
              simp only [spansFrom]
              by_cases skipped : front.length < earlier.extra
              · -- The run that is accepted here reaches over the place.
                have reaches : byteLength front <
                    byteLength ((front ++ c :: rest).take earlier.extra) :=
                  byteLength_lt_of_skipped skipped
                refine ⟨_, List.mem_cons_self, ?_⟩
                simp only [byteLength, List.take_zero]
                omega
              · obtain ⟨span, mem, above, below⟩ := (ih accepted).resolve_left skipped
                refine ⟨span, List.mem_cons_of_mem _ mem, ?_⟩
                simp only [byteLength, List.take_zero] at above below ⊢
                omega

/-- Where a run would be accepted, a span lies over the place. -/
theorem exists_mem_spansOf {c : Char} {hit : Hit α}
    (accepted : recognise (lastOf none front) (c :: rest) = some hit) :
    ∃ span ∈ spansOf recognise (front ++ c :: rest),
      span.start ≤ byteLength front ∧ byteLength front < span.stop := by
  obtain ⟨span, mem, above, below⟩ :=
    (exists_span_of_accepted accepted).resolve_left (Nat.not_lt_zero _)
  refine ⟨span, mem, ?_⟩
  simpa [byteLength] using And.intro above below

/-- Some place of a text is accepted just if some run of it would be. -/
theorem anywhere_iff : anywhere recognise text = true ↔ ∃ front c rest, text = front ++ c :: rest ∧
    ∃ hit, recognise (lastOf none front) (c :: rest) = some hit := by
  have spans : anywhere recognise text = true ↔ ∃ span, span ∈ spansOf recognise text := by
    unfold anywhere
    rw [← map_hits, ← map_spansOf]
    cases spansOf recognise text with
    | nil => simp
    | cons span spans => simp
  rw [spans]
  constructor
  · rintro ⟨span, mem⟩
    obtain ⟨front, place, split, accepts, -⟩ := exists_of_mem_spansOf mem
    obtain ⟨extra, accepted, -⟩ := accepts.accepted
    obtain ⟨c, rest, rfl⟩ := List.exists_cons_of_ne_nil accepts.nonempty
    exact ⟨front, c, rest, split, _, accepted⟩
  · rintro ⟨front, c, rest, rfl, hit, accepted⟩
    obtain ⟨span, mem, -⟩ := exists_mem_spansOf accepted
    exact ⟨span, mem⟩

/-- The spans of pieces begin where the pieces do, or behind that. -/
theorem le_start_of_mem_spansFrom {pieces : List (Piece α)} (mem : span ∈ spansFrom offset pieces) :
    offset ≤ span.start := by
  induction pieces generalizing offset with
  | nil => cases mem
  | cons piece pieces ih =>
      cases piece with
      | plain c => exact Nat.le_trans (Nat.le_add_right _ _) (ih mem)
      | hit text value =>
          rcases List.mem_cons.mp mem with rfl | later
          · exact Nat.le_refl _
          · exact Nat.le_trans (Nat.le_add_right _ _) (ih later)

/-- Spans follow each other without overlap. -/
theorem pairwise_spansFrom (offset : Nat) (pieces : List (Piece α)) :
    (spansFrom offset pieces).Pairwise fun first second => first.stop ≤ second.start := by
  induction pieces generalizing offset with
  | nil => exact .nil
  | cons piece pieces ih =>
      cases piece with
      | plain c => exact ih _
      | hit text value => exact .cons (fun span mem => le_start_of_mem_spansFrom mem) (ih _)

end PromScribe.Text
