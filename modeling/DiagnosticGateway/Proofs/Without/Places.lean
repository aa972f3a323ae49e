import Mathlib.Data.List.Basic

/-!
# Numbers without strangers

Some numbers are strange. The others keep their order when the strange ones are left out, and get
the numbers of their places. A list by number is treated in the same way: what stands under a
strange number is left out, and the rest moves up.
-/

namespace DiagnosticGateway

/-- The place of a number among those that are not strange. -/
def place (strange : Nat → Bool) : Nat → Nat
  | 0 => 0
  | number + 1 => (if strange 0 then 0 else 1) + place (fun other => strange (other + 1)) number

/-- What stands in a list under numbers that are not strange. -/
def others {element : Type} (strange : Nat → Bool) : List element → List element
  | [] => []
  | first :: rest =>
    if strange 0 then others (fun other => strange (other + 1)) rest
    else first :: others (fun other => strange (other + 1)) rest

/-- The places of the numbers in a list that are not strange. -/
def places (strange : Nat → Bool) (numbers : List Nat) : List Nat :=
  (numbers.filter fun number => !strange number).map (place strange)

variable {strange : Nat → Bool} {number other : Nat} {numbers : List Nat} {element image : Type}

/-! ## Places -/

/-- Past a stranger the places do not move on. -/
theorem place_succ (strange : Nat → Bool) (number : Nat) :
    place strange (number + 1) = place strange number + if strange number then 0 else 1 := by
  induction number generalizing strange with
  | zero => simp [place]
  | succ number inductionHypothesis =>
    rw [place, inductionHypothesis, place, Nat.add_assoc]

/-- Places are in the order of the numbers. -/
theorem place_le_place (before : number ≤ other) : place strange number ≤ place strange other := by
  induction before with
  | refl => exact Nat.le_refl _
  | step _ inductionHypothesis =>
    rw [place_succ]
    exact Nat.le_trans inductionHypothesis (Nat.le_add_right _ _)

/-- A number that is not strange keeps its order to the later ones. Its own place is used up by it,
so the places after it are greater. -/
theorem place_lt_place_iff (known : strange number = false) :
    place strange number < place strange other ↔ number < other := by
  constructor
  · intro before
    by_contra after
    exact Nat.not_lt.mpr (place_le_place (Nat.le_of_not_lt after)) before
  · intro before
    have next : place strange (number + 1) = place strange number + 1 := by
      simp [place_succ, known]
    have later : place strange (number + 1) ≤ place strange other := place_le_place before
    omega

/-- Two numbers that are not strange have different places. -/
theorem place_inj (known : strange number = false) (knownOther : strange other = false) :
    place strange number = place strange other ↔ number = other := by
  constructor
  · intro same
    rcases Nat.lt_trichotomy number other with before | equal | after
    · exact absurd same (Nat.ne_of_lt ((place_lt_place_iff known).mpr before))
    · exact equal
    · exact absurd same (Nat.ne_of_gt ((place_lt_place_iff knownOther).mpr after))
  · exact congrArg (place strange)

/-! ## Lists of numbers -/

/-- Where nobody is strange, everybody has a place. -/
theorem places_of_known (known : ∀ number ∈ numbers, strange number = false) :
    places strange numbers = numbers.map (place strange) := by
  rw [places, List.filter_eq_self.mpr fun number member => by simp [known number member]]

/-- What is sought among the numbers and is never strange is found at its place. The search may look
at the number in any way, as long as it finds nobody who is strange. -/
theorem find?_places {sought soughtPlace : Nat → Bool}
    (never : ∀ number, sought number = true → strange number = false)
    (same : ∀ number, strange number = false → soughtPlace (place strange number) = sought number) :
    (places strange numbers).find? soughtPlace = (numbers.find? sought).map (place strange) := by
  unfold places
  induction numbers with
  | nil => rfl
  | cons first rest inductionHypothesis =>
    cases stranger : strange first with
    | true =>
      have unsought : sought first = false := by
        by_contra found
        rw [never first (by simpa using found)] at stranger
        cases stranger
      simpa [stranger, unsought] using inductionHypothesis
    | false =>
      cases here : sought first with
      | true => simp [stranger, here, same first stranger]
      | false => simpa [stranger, here, same first stranger] using inductionHypothesis

/-- What is chosen among the numbers is chosen among the places. -/
theorem filter_places {chosen chosenPlace : Nat → Bool}
    (same : ∀ number, strange number = false → chosenPlace (place strange number) = chosen number) :
    (places strange numbers).filter chosenPlace = places strange (numbers.filter chosen) := by
  unfold places
  rw [List.filter_map, List.filter_filter, List.filter_filter]
  congr 1
  refine List.filter_congr fun number _ => ?_
  cases stranger : strange number with
  | true => simp
  | false => simp [same number stranger]

/-- Taking out a stranger leaves the places as they are. -/
theorem places_erase_of_strange (numbers : List Nat) (stranger : strange number = true) :
    places strange (numbers.filter fun other => other != number) = places strange numbers := by
  unfold places
  rw [List.filter_filter]
  congr 1
  refine List.filter_congr fun other _ => ?_
  by_cases here : other = number
  · simp [here, stranger]
  · simp [here]

/-- Taking out somebody else takes out his place. -/
theorem places_erase_of_known (numbers : List Nat) (known : strange number = false) :
    (places strange numbers).filter (fun other => other != place strange number) =
      places strange (numbers.filter fun other => other != number) := by
  refine filter_places fun other knownOther => ?_
  rw [Bool.eq_iff_iff, bne_iff_ne, bne_iff_ne]
  exact (place_inj knownOther known).not

/-! ## Lists by number -/

/-- What stands under a number that is not strange is found at its place. The places below it are
those of the elements in front of it that are not strange. -/
theorem getElem?_others (list : List element) (known : strange number = false) :
    (others strange list)[place strange number]? = list[number]? := by
  induction list generalizing strange number with
  | nil => simp [others]
  | cons first rest inductionHypothesis =>
    cases number with
    | zero => simp [others, place, known]
    | succ number =>
      have later : (others (fun other => strange (other + 1)) rest)[place
          (fun other => strange (other + 1)) number]? = rest[number]? := inductionHypothesis known
      cases front : strange 0 with
      | true => simpa [others, place, front] using later
      | false =>
        rw [others, place, front, List.getElem?_cons_succ, ← later]
        simp only [Bool.false_eq_true, if_false, Nat.add_comm 1, List.getElem?_cons_succ]

/-- There are as many others as there are places below the length. -/
theorem length_others (list : List element) :
    (others strange list).length = place strange list.length := by
  induction list generalizing strange with
  | nil => rfl
  | cons first rest inductionHypothesis =>
    cases front : strange 0 with
    | true => simp [others, place, front, inductionHypothesis]
    | false => simp [others, place, front, inductionHypothesis, Nat.add_comm]

/-- A last element is one of the others, or it stands at the number of a stranger. -/
theorem others_concat (list : List element) (last : element) :
    others strange (list ++ [last]) =
      others strange list ++ if strange list.length then [] else [last] := by
  induction list generalizing strange with
  | nil => cases front : strange 0 <;> simp [others, front]
  | cons first rest inductionHypothesis =>
    cases front : strange 0 <;> simp [others, front, inductionHypothesis]

/-- What is done to all can be done to the others alone. -/
theorem others_map (change : element → image) (list : List element) :
    others strange (list.map change) = (others strange list).map change := by
  induction list generalizing strange with
  | nil => rfl
  | cons first rest inductionHypothesis =>
    cases front : strange 0 <;> simp [others, front, inductionHypothesis]

/-- What changes under a strange number is not seen among the others. The induction is on the list,
with strangeness shifted by one place. -/
theorem others_modify_of_strange (list : List element) (change : element → element)
    (stranger : strange number = true) :
    others strange (list.modify number change) = others strange list := by
  induction list generalizing strange number with
  | nil => rw [List.modify_nil]
  | cons first rest inductionHypothesis =>
    cases number with
    | zero => simp [others, stranger]
    | succ number =>
      have later : others (fun other => strange (other + 1)) (rest.modify number change) =
          others (fun other => strange (other + 1)) rest := inductionHypothesis stranger
      simp [others, later]

/-- What changes under another number changes at its place. Another element keeps its place, because
the change does not make the list longer. -/
theorem others_modify_of_known (list : List element) (change : element → element)
    (known : strange number = false) :
    others strange (list.modify number change) =
      (others strange list).modify (place strange number) change := by
  induction list generalizing strange number with
  | nil => simp [others]
  | cons first rest inductionHypothesis =>
    cases number with
    | zero => simp [others, place, known]
    | succ number =>
      have later : others (fun other => strange (other + 1)) (rest.modify number change) =
          (others (fun other => strange (other + 1)) rest).modify
            (place (fun other => strange (other + 1)) number) change := inductionHypothesis known
      cases front : strange 0 with
      | true => simp [others, place, front, later]
      | false => simp [others, place, front, later, Nat.add_comm 1]

end DiagnosticGateway
