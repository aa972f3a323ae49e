import Mathlib.Data.List.Forall2
import DiagnosticGateway.Config.Basic
import DiagnosticGateway.Proofs.Ecu.FirstMatch

/-!
# Lines that stay in their enclosure

The request of a line is put into its enclosure without being read first. A line that is accepted is
a pattern on its own, or its text closes the group of the enclosure. In the first case it answers
exactly the requests that it matches as a whole. In the second case it may be no pattern on its own,
and an alternative that begins outside the group of the enclosure may match a part of a request. A
line that is no pattern and closes no group that it has not opened is rejected.
-/

namespace DiagnosticGateway

namespace Ecu

variable {dialect : Pattern.Dialect} {library : Pattern.Library} {rule : LookupRule}
  {rules before after : List LookupRule} {entry : LookupEntry} {entries : List LookupEntry}

/-- The request of a line closes the group of its enclosure. -/
def LookupRule.Escapes (dialect : Pattern.Dialect) (rule : LookupRule) : Prop :=
  dialect.Escapes rule.text

/-- A line that is neither a pattern nor escapes is rejected, for a reason that the library
gives. -/
theorem LookupEntry.ofRule_eq_error (documented : dialect.Documented library)
    (foreign : ¬rule.IsPattern dialect) (stays : ¬rule.Escapes dialect) :
    ∃ reason, ofRule library rule = .error (.faultyPattern reason) := by
  cases compiled : library.compile (Pattern.wrap rule.text) with
  | ok pattern =>
    exact ((documented.isPattern_or_escapes compiled).elim foreign stays).elim
  | error reason =>
    rw [LookupRule.text] at compiled
    exact ⟨reason, by rw [ofRule, compiled]⟩

/-- What a line that is accepted comes to in the table. The clauses say what it answers, and that
one which escapes still has a part that can be read by itself. -/
structure LookupRule.Contained (dialect : Pattern.Dialect) (rule : LookupRule)
    (entry : LookupEntry) : Prop where
  /-- Its request is a pattern on its own, or escapes the enclosure. -/
  own : rule.IsPattern dialect ∨ rule.Escapes dialect
  /-- A pattern on its own answers the requests that it matches as a whole and no others. -/
  whole : rule.IsPattern dialect →
    ∀ request, entry.answers request = true ↔ rule.MatchesWhole dialect request
  /-- Two patterns with the end of the group between them answer the requests that the first one
  matches from the start and those that the second one matches up to the end. -/
  parts : ∀ left right, rule.text = left ++ ")|(?:" ++ right → dialect.IsPattern left →
    dialect.IsPattern right → ∃ one other, dialect.read true left = some one ∧
      dialect.read true right = some other ∧ ∀ request, entry.answers request = true ↔
        (∃ last, dialect.Matches (Text.Hex.upper request) one 0 last) ∨
          ∃ first, dialect.Matches (Text.Hex.upper request) other first
            (Text.Hex.upper request).length

/-- A line that has been read is contained like that. Each clause is what the rules of the
documentation say of the compiled enclosure. -/
theorem LookupRule.contained (documented : dialect.Documented library)
    (read : LookupEntry.ofRule library rule = .ok entry) : rule.Contained dialect entry where
  own := documented.isPattern_or_escapes (LookupEntry.ofRule_eq_ok read).1
  whole own := LookupEntry.answers_iff documented read own
  parts left right split ownLeft ownRight := by
    have compiled := (LookupEntry.ofRule_eq_ok read).1
    have line := rule.line_text
    simp only [split, String.toList_append, List.mem_append, not_or] at line
    obtain ⟨⟨lineLeft, -⟩, lineRight⟩ := line
    rw [split] at compiled
    obtain ⟨one, other, readLeft, readRight, matched⟩ :=
      documented.isMatch_escaping_iff compiled ownLeft ownRight lineLeft lineRight
    exact ⟨one, other, readLeft, readRight, fun request => matched _⟩

namespace LookupTable

/-- The entries of a table are those of its lines. -/
theorem contained_entriesOf (documented : dialect.Documented library)
    (read : entriesOf library rules = .ok entries) :
    List.Forall₂ (LookupRule.Contained dialect) rules entries := by
  induction rules generalizing entries with
  | nil =>
    cases read
    exact .nil
  | cons first rest inductionHypothesis =>
    obtain ⟨entry, others, readFirst, readRest, rfl⟩ := entriesOf_cons read
    exact .cons (LookupRule.contained documented readFirst) (inductionHypothesis readRest)

/-- A faulty line has the table rejected, and it is reported unless an earlier line is faulty. The
induction is on the lines before it: the first of them that is faulty is reported in its place. -/
theorem entriesOf_eq_error {fault : LookupFault} (before after : List LookupRule)
    (faulty : LookupEntry.ofRule library rule = .error fault) :
    ∃ culprit reported, entriesOf library (before ++ rule :: after) = .error (culprit, reported) ∧
      (culprit = rule ∧ reported = fault ∨
        culprit ∈ before ∧ LookupEntry.ofRule library culprit = .error reported) := by
  induction before with
  | nil => exact ⟨rule, fault, by simp [entriesOf, faulty], Or.inl ⟨rfl, rfl⟩⟩
  | cons first rest inductionHypothesis =>
    cases read : LookupEntry.ofRule library first with
    | error found =>
      exact ⟨first, found, by simp [entriesOf, read], Or.inr ⟨List.mem_cons_self, read⟩⟩
    | ok entry =>
      obtain ⟨culprit, reported, rejected, blamed⟩ := inductionHypothesis
      refine ⟨culprit, reported, by simp [entriesOf, read, rejected], blamed.imp_right ?_⟩
      rintro ⟨earlier, found⟩
      exact ⟨List.mem_cons_of_mem _ earlier, found⟩

end LookupTable

end Ecu

namespace EcuConfig

open Ecu
open Pattern (Plain.dialect Plain.library)

variable {dialect : Pattern.Dialect} {library : Pattern.Library}

/-- The lines of an ECU's lookup table stay in their enclosure as far as they do not escape. Lines
that escape may be accepted or not, and nothing is said of that. -/
structure Contains (dialect : Pattern.Dialect) (library : Pattern.Library) (config : EcuConfig) :
    Prop where
  /-- Every line of a table that is accepted is contained. -/
  accepted : ∀ table, config.lookupTable library = .ok table →
    List.Forall₂ (LookupRule.Contained dialect) config.lookup table.entries
  /-- A line that is no pattern and does not escape has the table rejected, and it is reported
  unless an earlier line is faulty. -/
  rejected : ∀ before rule after, config.lookup = before ++ rule :: after →
    ¬rule.IsPattern dialect → ¬rule.Escapes dialect → ∃ culprit fault,
      config.lookupTable library = .error (.invalidLookup config.name culprit.request fault) ∧
        ((culprit = rule ∧ ∃ reason, fault = .faultyPattern reason) ∨
          culprit ∈ before ∧ LookupEntry.ofRule library culprit = .error fault)

/-- The lines of every lookup table are contained, if the library of their patterns keeps to its
documentation. -/
theorem lines_contained (documented : dialect.Documented library) (config : EcuConfig) :
    config.Contains dialect library where
  accepted table built := by
    unfold lookupTable at built
    split at built
    · rename_i found
      cases built
      exact LookupTable.contained_entriesOf documented (LookupTable.ofRules_eq_ok found)
    · cases built
  rejected before rule after split foreign stays := by
    obtain ⟨reason, faulty⟩ := LookupEntry.ofRule_eq_error documented foreign stays
    obtain ⟨culprit, fault, rejected, blamed⟩ := LookupTable.entriesOf_eq_error before after faulty
    refine ⟨culprit, fault, ?_, blamed.imp_left fun ⟨same, reported⟩ => ⟨same, reason, reported⟩⟩
    rw [lookupTable, LookupTable.ofRules, split, rejected]

/-- A line whose request escapes the enclosure: what is read is one of two alternatives, of which
the first has to match at the start of a request and the second at its end. -/
def escaping : EcuConfig where
  name := "engine"
  physicalAddress := 1
  functionalAddress := 0xE400
  lookup := [⟨"22)|(?:31", "62"⟩]

/-- With the plain library the line is accepted, and it answers the requests that begin with the
first part and those that end with the second one. -/
theorem lines_contained_escaping :
    Plain.dialect.Documented Plain.library ∧ escaping.Contains Plain.dialect Plain.library ∧
      ∃ entry one other, escaping.lookupTable Plain.library = .ok ⟨[entry]⟩ ∧
        Plain.dialect.read true "22" = some one ∧ Plain.dialect.read true "31" = some other ∧
        ∀ request, entry.answers request = true ↔
          (∃ last, Plain.dialect.Matches (Text.Hex.upper request) one 0 last) ∨
            ∃ first, Plain.dialect.Matches (Text.Hex.upper request) other first
              (Text.Hex.upper request).length := by
  have documented := Pattern.Plain.documented
  have contains := lines_contained documented escaping
  have patterns : Plain.dialect.IsPattern "22" ∧ Plain.dialect.IsPattern "31" := by
    unfold Pattern.Dialect.IsPattern
    decide +kernel
  have accepted : (escaping.lookupTable Plain.library).toOption.isSome = true := by
    decide +kernel
  cases built : escaping.lookupTable Plain.library with
  | error fault =>
    rw [built] at accepted
    cases accepted
  | ok table =>
    obtain ⟨entries⟩ := table
    obtain ⟨entry, others, contained, none, rfl⟩ :=
      List.forall₂_cons_left_iff.mp (contains.accepted ⟨entries⟩ built)
    obtain rfl := List.forall₂_nil_left_iff.mp none
    obtain ⟨one, other, readOne, readOther, answers⟩ :=
      contained.parts "22" "31" (by decide +kernel) patterns.1 patterns.2
    exact ⟨documented, contains, entry, one, other, rfl, readOne, readOther, answers⟩

/-- A line that is no pattern on its own is accepted, and it answers requests that it does not match
as a whole. -/
theorem escaping_answers_parts :
    ∃ table, escaping.lookupTable Plain.library = .ok table ∧
      (∀ rule ∈ escaping.lookup, ¬rule.IsPattern Plain.dialect ∧
        ∀ request, ¬rule.MatchesWhole Plain.dialect request) ∧
      table.find? [0x22, 0xFF] = some [0x62] ∧ table.find? [0xFF, 0x31] = some [0x62] := by
  have foreign : ∀ rule ∈ escaping.lookup, ¬rule.IsPattern Plain.dialect := by
    unfold LookupRule.IsPattern Pattern.Dialect.IsPattern
    decide +kernel
  have answers : (escaping.lookupTable Plain.library).toOption.map (fun table =>
      (table.find? [0x22, 0xFF], table.find? [0xFF, 0x31])) = some (some [0x62], some [0x62]) := by
    decide +kernel
  cases built : escaping.lookupTable Plain.library with
  | error fault =>
    rw [built] at answers
    cases answers
  | ok table =>
    rw [built] at answers
    have found := Prod.mk.inj (Option.some.inj answers)
    refine ⟨table, rfl, fun rule listed => ⟨foreign rule listed, ?_⟩, found.1, found.2⟩
    rintro request ⟨expr, read, -⟩
    have readable := Pattern.Plain.documented.foldable rule.text
    rw [read] at readable
    exact foreign rule listed readable.symm

end EcuConfig

end DiagnosticGateway
