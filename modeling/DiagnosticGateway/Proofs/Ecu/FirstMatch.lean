import DiagnosticGateway.Ecu.Lookup
import DiagnosticGateway.Proofs.Pattern.Plain

/-!
# The first whole match answers

A lookup table whose lines are patterns on their own answers a request by the first of them, in the
order in which they are configured, that matches the uppercase hexadecimal text of the request as a
whole, with letters in both cases. Lines after it make no difference, and a line that matches only a
part does not answer, whatever alternatives and conditions it is made of.

What a pattern matches is for the library of regular expressions to say. All that is supposed of it
is that it keeps to its documentation.
-/

namespace DiagnosticGateway.Ecu

namespace LookupRule

/-- The text of a line's request, without blanks. -/
def text (rule : LookupRule) : String :=
  Text.withoutBlanks rule.request

/-- The request of a line is a pattern on its own. -/
def IsPattern (dialect : Pattern.Dialect) (rule : LookupRule) : Prop :=
  dialect.IsPattern rule.text

/-- The pattern of a line, read so that letters match in both cases, matches the whole hexadecimal
text of a request. -/
def MatchesWhole (dialect : Pattern.Dialect) (rule : LookupRule) (request : Bytes) : Prop :=
  ∃ expr, dialect.read true rule.text = some expr ∧
    dialect.Matches (Text.Hex.upper request) expr 0 (Text.Hex.upper request).length

/-- The response of a line, without blanks, is the hexadecimal text of a string of bytes. -/
def Responds (rule : LookupRule) (response : Bytes) : Prop :=
  Text.Hex.decode (Text.withoutBlanks rule.response) = .ok response

/-- The ends of lines are blank, so there is none in the text of a request. -/
theorem line_text (rule : LookupRule) : '\n' ∉ rule.text.toList := by
  simp [text, Text.withoutBlanks, Text.isBlank, Text.blanks]

end LookupRule

variable {dialect : Pattern.Dialect} {library : Pattern.Library}
  {rule : LookupRule} {rules before after others : List LookupRule} {entry : LookupEntry}
  {entries entriesOther : List LookupEntry} {request response : Bytes}

/-! ## Lines -/

/-- A line that has been read holds the pattern of its text in the enclosure, and its response. All
other branches of the reader end in a fault. -/
theorem LookupEntry.ofRule_eq_ok (read : ofRule library rule = .ok entry) :
    library.compile (Pattern.wrap rule.text) = .ok entry.pattern ∧
      rule.Responds entry.response := by
  unfold ofRule at read
  split at read
  · cases read
  · rename_i pattern compiled
    split at read
    · cases read
    · cases read
    · rename_i response _ decoded
      cases read
      exact ⟨compiled, decoded⟩

/-- A line that is a pattern on its own answers exactly the requests that it matches as a whole. The
text is compiled once, so the expression that is read is the same one on both sides. -/
theorem LookupEntry.answers_iff (documented : dialect.Documented library)
    (read : ofRule library rule = .ok entry) (own : rule.IsPattern dialect) (request : Bytes) :
    entry.answers request = true ↔ rule.MatchesWhole dialect request := by
  obtain ⟨expr, readText, matched⟩ :=
    documented.isMatch_wrap_iff (ofRule_eq_ok read).1 own rule.line_text
  rw [answers, matched]
  constructor
  · intro whole
    exact ⟨expr, readText, whole⟩
  · rintro ⟨same, readAgain, whole⟩
    obtain rfl := Option.some.inj (readText.symm.trans readAgain)
    exact whole

/-! ## Tables -/

namespace LookupTable

/-- A table that begins with a line has been read if that line and the others have been. It is the
inversion that the inductions over tables use. -/
theorem entriesOf_cons (read : entriesOf library (rule :: rules) = .ok entries) :
    ∃ entry others, LookupEntry.ofRule library rule = .ok entry ∧
      entriesOf library rules = .ok others ∧ entries = entry :: others := by
  unfold entriesOf at read
  split at read
  · cases read
  · rename_i entry readFirst
    split at read
    · cases read
    · rename_i others readOthers
      cases read
      exact ⟨entry, others, readFirst, readOthers, rfl⟩

/-- The first line that has a property is the first of all, or the first of the others if that one
does not have it. -/
theorem exists_first_cons {first : LookupRule} {rest : List LookupRule}
    {holds gives : LookupRule → Prop} :
    (∃ before rule after, first :: rest = before ++ rule :: after ∧ holds rule ∧
        (∀ earlier ∈ before, ¬holds earlier) ∧ gives rule) ↔
      holds first ∧ gives first ∨
        ¬holds first ∧ ∃ before rule after, rest = before ++ rule :: after ∧ holds rule ∧
          (∀ earlier ∈ before, ¬holds earlier) ∧ gives rule := by
  constructor
  · rintro ⟨before, rule, after, split, held, earlier, given⟩
    cases before with
    | nil =>
      cases split
      exact Or.inl ⟨held, given⟩
    | cons head tail =>
      cases split
      obtain ⟨lacks, others⟩ := List.forall_mem_cons.mp earlier
      exact Or.inr ⟨lacks, tail, rule, after, rfl, held, others, given⟩
  · rintro (⟨held, given⟩ | ⟨lacks, before, rule, after, rfl, held, earlier, given⟩)
    · exact ⟨[], first, rest, rfl, held, nofun, given⟩
    · exact ⟨first :: before, rule, after, rfl, held,
        List.forall_mem_cons.mpr ⟨lacks, earlier⟩, given⟩

/-- The response that is found is that of the first line that matches the whole request. The
induction is on the lines. That each of them is a pattern of its own is what lets the library's
answer about the enclosed text be read as one about the text itself. -/
theorem find?_entriesOf (documented : dialect.Documented library)
    (read : entriesOf library rules = .ok entries) (own : ∀ rule ∈ rules, rule.IsPattern dialect) :
    (entries.find? (LookupEntry.answers request)).map LookupEntry.response = some response ↔
      ∃ before rule after, rules = before ++ rule :: after ∧ rule.MatchesWhole dialect request ∧
        (∀ earlier ∈ before, ¬earlier.MatchesWhole dialect request) ∧ rule.Responds response := by
  induction rules generalizing entries with
  | nil =>
    cases read
    simp
  | cons first rest inductionHypothesis =>
    obtain ⟨entry, others, readFirst, readRest, rfl⟩ := entriesOf_cons read
    obtain ⟨ownFirst, ownRest⟩ := List.forall_mem_cons.mp own
    have answers := LookupEntry.answers_iff documented readFirst ownFirst request
    refine Iff.trans ?_ exists_first_cons.symm
    by_cases matched : first.MatchesWhole dialect request
    · have responds := (LookupEntry.ofRule_eq_ok readFirst).2
      rw [List.find?_cons_of_pos (answers.mpr matched), Option.map_some, Option.some.injEq]
      constructor
      · rintro rfl
        exact Or.inl ⟨matched, responds⟩
      · rintro (⟨-, alsoResponds⟩ | ⟨foreign, -⟩)
        · exact Except.ok.inj (responds.symm.trans alsoResponds)
        · exact absurd matched foreign
    · rw [List.find?_cons_of_neg (mt answers.mp matched), inductionHypothesis readRest ownRest]
      constructor
      · intro found
        exact Or.inr ⟨matched, found⟩
      · rintro (⟨whole, -⟩ | ⟨-, found⟩)
        · exact absurd whole matched
        · exact found

/-- Nothing is found if and only if no line matches the whole request. The induction is on the
lines, each of which either answers or leaves the question to the others. -/
theorem find?_entriesOf_eq_none (documented : dialect.Documented library)
    (read : entriesOf library rules = .ok entries) (own : ∀ rule ∈ rules, rule.IsPattern dialect) :
    entries.find? (LookupEntry.answers request) = none ↔
      ∀ rule ∈ rules, ¬rule.MatchesWhole dialect request := by
  induction rules generalizing entries with
  | nil =>
    cases read
    simp
  | cons first rest inductionHypothesis =>
    obtain ⟨entry, others, readFirst, readRest, rfl⟩ := entriesOf_cons read
    obtain ⟨ownFirst, ownRest⟩ := List.forall_mem_cons.mp own
    rw [List.forall_mem_cons, ← inductionHypothesis readRest ownRest,
      ← LookupEntry.answers_iff documented readFirst ownFirst request, List.find?_cons]
    cases entry.answers request <;> simp

/-- Lines after one that answers make no difference. The induction is on the lines before it, which
are the same in both tables. -/
theorem find?_entriesOf_append (read : entriesOf library (before ++ rule :: after) = .ok entries)
    (readOther : entriesOf library (before ++ rule :: others) = .ok entriesOther)
    (answers : ∀ entry, LookupEntry.ofRule library rule = .ok entry →
      entry.answers request = true) :
    entriesOther.find? (LookupEntry.answers request) =
      entries.find? (LookupEntry.answers request) := by
  induction before generalizing entries entriesOther with
  | nil =>
    obtain ⟨entry, _, readRule, -, rfl⟩ := entriesOf_cons read
    obtain ⟨entryOther, _, readRuleOther, -, rfl⟩ := entriesOf_cons readOther
    obtain rfl := Except.ok.inj (readRule.symm.trans readRuleOther)
    rw [List.find?_cons_of_pos (answers entry readRule),
      List.find?_cons_of_pos (answers entry readRule)]
  | cons first rest inductionHypothesis =>
    obtain ⟨entry, _, readFirst, readRest, rfl⟩ := entriesOf_cons read
    obtain ⟨entryOther, _, readFirstOther, readRestOther, rfl⟩ := entriesOf_cons readOther
    obtain rfl := Except.ok.inj (readFirst.symm.trans readFirstOther)
    rw [List.find?_cons, List.find?_cons, inductionHypothesis readRest readRestOther]

/-- A table answers a request by the first of its lines that matches it as a whole. Both directions
are stated for the response and for its absence, and what stands behind the first such line is shown
to make no difference. -/
structure AnswersByFirst (dialect : Pattern.Dialect) (library : Pattern.Library)
    (rules : List LookupRule) (table : LookupTable) (request : Bytes) : Prop where
  /-- A response is given if and only if it is that of a line that matches the whole request while
  no earlier line does. -/
  found : ∀ response, table.find? request = some response ↔
    ∃ before rule after, rules = before ++ rule :: after ∧ rule.MatchesWhole dialect request ∧
      (∀ earlier ∈ before, ¬earlier.MatchesWhole dialect request) ∧ rule.Responds response
  /-- No response is given if and only if no line matches the whole request. -/
  missed : table.find? request = none ↔ ∀ rule ∈ rules, ¬rule.MatchesWhole dialect request
  /-- Whatever other lines follow one that matches, the answer is the same. -/
  settled : ∀ before rule after, rules = before ++ rule :: after →
    rule.MatchesWhole dialect request →
      ∀ others tableOther, ofRules library (before ++ rule :: others) = .ok tableOther →
        tableOther.find? request = table.find? request

/-- A table holds the entries of its lines. -/
theorem ofRules_eq_ok {table : LookupTable} (built : ofRules library rules = .ok table) :
    entriesOf library rules = .ok table.entries := by
  unfold ofRules at built
  split at built
  · cases built
  · rename_i entries read
    cases built
    exact read

/-- A table whose lines are patterns on their own answers every request by the first of them that
matches it as a whole, if the library of its patterns keeps to its documentation. -/
theorem answers_by_first (documented : dialect.Documented library) {table : LookupTable}
    (built : ofRules library rules = .ok table) (own : ∀ rule ∈ rules, rule.IsPattern dialect)
    (request : Bytes) :
    AnswersByFirst dialect library rules table request where
  found response := find?_entriesOf documented (ofRules_eq_ok built) own
  missed := by
    rw [find?, Option.map_eq_none_iff]
    exact find?_entriesOf_eq_none documented (ofRules_eq_ok built) own
  settled := by
    rintro before rule after rfl matched others tableOther builtOther
    refine congrArg (Option.map LookupEntry.response)
      (find?_entriesOf_append (ofRules_eq_ok built) (ofRules_eq_ok builtOther) fun entry read => ?_)
    exact (LookupEntry.answers_iff documented read (own rule (by simp)) request).mpr matched

open Pattern (Plain.dialect Plain.library)

/-- Three lines. The first alternative of the first line matches the beginning of a request that the
second line matches as a whole, and the third line matches the same request. -/
def overlapping : List LookupRule :=
  [⟨"22 | 2E F1", "01"⟩, ⟨"22 .. $", "02 03"⟩, ⟨"(?: 22f1 )", "04"⟩]

/-- The second line answers the request with the plain library. Both lines match the request
somewhere, but the first does not match the whole of it. -/
theorem answers_by_first_overlapping :
    ∃ table, Plain.dialect.Documented Plain.library ∧
      ofRules Plain.library overlapping = .ok table ∧
      (∀ rule ∈ overlapping, rule.IsPattern Plain.dialect) ∧
      table.find? [0x22, 0xF1] = some [0x02, 0x03] ∧
      AnswersByFirst Plain.dialect Plain.library overlapping table [0x22, 0xF1] := by
  have own : ∀ rule ∈ overlapping, rule.IsPattern Plain.dialect := by
    unfold LookupRule.IsPattern Pattern.Dialect.IsPattern
    decide +kernel
  have accepted : (ofRules Plain.library overlapping).toOption.bind (find? [0x22, 0xF1]) =
      some [0x02, 0x03] := by
    decide +kernel
  cases built : ofRules Plain.library overlapping with
  | error fault =>
    rw [built] at accepted
    cases accepted
  | ok table =>
    rw [built] at accepted
    have documented := Pattern.Plain.documented
    exact ⟨table, documented, rfl, own, accepted,
      answers_by_first documented built own [0x22, 0xF1]⟩

end LookupTable

end DiagnosticGateway.Ecu
