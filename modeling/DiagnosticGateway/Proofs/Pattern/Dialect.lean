import DiagnosticGateway.Pattern

/-!
# What is relied on of a library of regular expressions

The library is not part of the gateway, so nothing is known of it but what its documentation says:
how a text is read as an expression, and which stretches of a subject an expression matches. Each
rule of the documentation that is relied on is a field of `Documented`. They are about anchors,
groups, alternatives, the flag for the case of letters, and the search for a match; what else there
is in the language stays open.

From these rules follows what the enclosure of a pattern does to it. A text that is a pattern on its
own is matched from the start of a subject to its end. Any other text is refused, unless it closes
the group of the enclosure; then its parts match on their own.
-/

namespace DiagnosticGateway.Pattern

/-- The language of a library, as far as its documentation speaks of it. -/
structure Dialect where
  /-- The expressions that texts are read as. -/
  Expr : Type
  /-- Read a text, from its start on with letters in both cases or in one. -/
  read : (foldCase : Bool) → String → Option Expr
  /-- An expression matches the stretch of a subject that begins and ends at these places, counted
  in characters. -/
  Matches : (subject : String) → Expr → (first last : Nat) → Prop

namespace Dialect

variable (dialect : Dialect)

/-- A text is a pattern on its own: it can be read where no flag is set. -/
def IsPattern (text : String) : Prop :=
  (dialect.read false text).isSome = true

/-- Two expressions match the same stretches of all subjects. -/
def Alike (expr other : dialect.Expr) : Prop :=
  ∀ subject first last, dialect.Matches subject expr first last ↔
    dialect.Matches subject other first last

/-- Texts that nothing beside them can change: groups of whole patterns, possibly with anchors
before and after. A group that is left open by a comment to the end of a line could be closed in a
later line, so the patterns are of one line. -/
inductive Enclosed : String → Prop
  | group {body : String} (own : dialect.IsPattern body) (line : '\n' ∉ body.toList) :
      Enclosed ("(?:" ++ body ++ ")")
  | start {text : String} (enclosed : Enclosed text) : Enclosed ("^" ++ text)
  | finish {text : String} (enclosed : Enclosed text) : Enclosed (text ++ "$")

end Dialect

/-- The documentation of a library: its language, and what compiling and matching have to do with
it. Every field is one rule of the documentation. -/
structure Dialect.Documented (dialect : Dialect) (library : Library) : Prop where
  /-- A text is compiled with no flag set, and only if it can be read. A compiled pattern matches a
  subject if its expression matches any stretch of it. -/
  compiled : ∀ text pattern, library.compile text = .ok pattern →
    ∃ expr, dialect.read false text = some expr ∧
      ∀ subject, pattern.isMatch subject = true ↔
        ∃ first last, dialect.Matches subject expr first last
  /-- The flag `i` tells which letters match, and not which texts are patterns. -/
  foldable : ∀ text, (dialect.read true text).isSome = (dialect.read false text).isSome
  /-- `(?i)` sets the flag within the current group, which at the start of a text is all of it. -/
  setsFlag : ∀ foldCase text expr, dialect.read foldCase ("(?i)" ++ text) = some expr →
    ∃ folded, dialect.read true text = some folded ∧ dialect.Alike expr folded
  /-- `(?:exp)` groups an expression, and matches what that matches. -/
  group : ∀ foldCase body expr, dialect.IsPattern body →
    dialect.read foldCase ("(?:" ++ body ++ ")") = some expr →
      ∃ inner, dialect.read foldCase body = some inner ∧ dialect.Alike expr inner
  /-- What stands in a group, up to the parenthesis that closes it, is an expression. -/
  closed : ∀ foldCase text expr, dialect.read foldCase ("^(?:" ++ text) = some expr →
    ∃ body rest, text = body ++ ")" ++ rest ∧ (dialect.read foldCase body).isSome = true
  /-- `^` matches at the start of a subject, and what follows it matches from there. -/
  start : ∀ foldCase text expr, dialect.Enclosed text →
    dialect.read foldCase ("^" ++ text) = some expr →
      ∃ rest, dialect.read foldCase text = some rest ∧ ∀ subject first last,
        dialect.Matches subject expr first last ↔
          first = 0 ∧ dialect.Matches subject rest first last
  /-- `$` matches at the end of a subject, and what precedes it matches up to there. -/
  finish : ∀ foldCase text expr, dialect.Enclosed text →
    dialect.read foldCase (text ++ "$") = some expr →
      ∃ rest, dialect.read foldCase text = some rest ∧ ∀ subject first last,
        dialect.Matches subject expr first last ↔
          last = subject.length ∧ dialect.Matches subject rest first last
  /-- `x|y` matches what one of the two matches. -/
  alternation : ∀ foldCase left right expr, dialect.Enclosed left → dialect.Enclosed right →
    dialect.read foldCase (left ++ "|" ++ right) = some expr →
      ∃ one other, dialect.read foldCase left = some one ∧
        dialect.read foldCase right = some other ∧ ∀ subject first last,
          dialect.Matches subject expr first last ↔
            dialect.Matches subject one first last ∨ dialect.Matches subject other first last

namespace Dialect

/-- A text closes a group that it has not opened: what stands before one of its parentheses is a
pattern, and the group of an enclosure ends there. -/
def Escapes (dialect : Dialect) (text : String) : Prop :=
  ∃ body rest, text = body ++ ")" ++ rest ∧ dialect.IsPattern body

namespace Documented

variable {dialect : Dialect} {library : Library} {text : String} {pattern : Pattern}

/-- What is compiled of a text in its enclosure is read between anchors, in both cases. -/
theorem read_of_wrap (documented : dialect.Documented library)
    (compiled : library.compile (wrap text) = .ok pattern) :
    ∃ expr, dialect.read true ("^(?:" ++ (text ++ ")$")) = some expr ∧
      ∀ subject, pattern.isMatch subject = true ↔
        ∃ first last, dialect.Matches subject expr first last := by
  obtain ⟨whole, read, found⟩ := documented.compiled _ _ compiled
  have split : wrap text = "(?i)" ++ ("^(?:" ++ (text ++ ")$")) := by
    simp [wrap, ← String.toList_inj]
  obtain ⟨expr, folded, alike⟩ := documented.setsFlag false _ _ (split ▸ read)
  refine ⟨expr, folded, fun subject => (found subject).trans ?_⟩
  exact exists_congr fun first => exists_congr fun last => alike subject first last

/-- A pattern in its enclosure matches a subject if the pattern on its own matches all of it. The
anchors of the enclosure see the group as a whole, because the text is a pattern of its own and does
not close it. -/
theorem isMatch_wrap_iff (documented : dialect.Documented library)
    (compiled : library.compile (wrap text) = .ok pattern) (own : dialect.IsPattern text)
    (line : '\n' ∉ text.toList) :
    ∃ expr, dialect.read true text = some expr ∧
      ∀ subject, pattern.isMatch subject = true ↔
        dialect.Matches subject expr 0 subject.length := by
  obtain ⟨whole, read, found⟩ := documented.read_of_wrap compiled
  have split : "^(?:" ++ (text ++ ")$") = "^" ++ ("(?:" ++ text ++ ")" ++ "$") := by
    simp [← String.toList_inj]
  have grouped : dialect.Enclosed ("(?:" ++ text ++ ")") := .group own line
  obtain ⟨ending, readEnding, started⟩ := documented.start true _ _ grouped.finish (split ▸ read)
  obtain ⟨inner, readInner, finished⟩ := documented.finish true _ _ grouped readEnding
  obtain ⟨expr, readText, alike⟩ := documented.group true _ _ own readInner
  refine ⟨expr, readText, fun subject => (found subject).trans ?_⟩
  simp only [started, finished, alike subject]
  constructor
  · rintro ⟨first, last, rfl, rfl, matched⟩
    exact matched
  · intro matched
    exact ⟨0, subject.length, rfl, rfl, matched⟩

/-- A text that is compiled in its enclosure is a pattern on its own, or it escapes. The group that
the enclosure opens is closed somewhere: by the enclosure itself, or earlier by the text. -/
theorem isPattern_or_escapes (documented : dialect.Documented library)
    (compiled : library.compile (wrap text) = .ok pattern) :
    dialect.IsPattern text ∨ dialect.Escapes text := by
  obtain ⟨whole, read, -⟩ := documented.read_of_wrap compiled
  obtain ⟨body, rest, split, own⟩ := documented.closed true _ _ read
  rw [documented.foldable] at own
  have sides : text.toList ++ [')', '$'] = body.toList ++ ')' :: rest.toList := by
    simpa using congrArg String.toList split
  -- The parenthesis that closes the group is the one of the enclosure, or it stands in the text.
  rcases List.append_eq_append_iff.mp sides with ⟨gap, longer, tail⟩ | ⟨gap, shorter, tail⟩
  · cases gap with
    | nil =>
      rw [List.append_nil, String.toList_inj] at longer
      exact Or.inl (longer ▸ own)
    | cons first more =>
      have later : ')' ∈ ['$'] := by
        rw [(List.cons.inj tail).2]
        exact List.mem_append_right more List.mem_cons_self
      exact absurd later (by decide)
  · cases gap with
    | nil =>
      rw [List.append_nil, String.toList_inj] at shorter
      exact Or.inl (shorter ▸ own)
    | cons first more =>
      obtain ⟨rfl, -⟩ := List.cons.inj tail
      refine Or.inr ⟨body, String.ofList more, ?_, own⟩
      simp [← String.toList_inj, shorter]

/-- Two patterns with the parentheses between them that leave the enclosure: the first one matches
from the start of a subject, wherever it ends, and the second one up to the end of it. -/
theorem isMatch_escaping_iff (documented : dialect.Documented library) {left right : String}
    (compiled : library.compile (wrap (left ++ ")|(?:" ++ right)) = .ok pattern)
    (ownLeft : dialect.IsPattern left) (ownRight : dialect.IsPattern right)
    (lineLeft : '\n' ∉ left.toList) (lineRight : '\n' ∉ right.toList) :
    ∃ one other, dialect.read true left = some one ∧ dialect.read true right = some other ∧
      ∀ subject, pattern.isMatch subject = true ↔
        (∃ last, dialect.Matches subject one 0 last) ∨
          ∃ first, dialect.Matches subject other first subject.length := by
  obtain ⟨whole, read, found⟩ := documented.read_of_wrap compiled
  have split : "^(?:" ++ (left ++ ")|(?:" ++ right ++ ")$") =
      "^" ++ ("(?:" ++ left ++ ")") ++ "|" ++ ("(?:" ++ right ++ ")" ++ "$") := by
    simp [← String.toList_inj]
  have groupedLeft : dialect.Enclosed ("(?:" ++ left ++ ")") := .group ownLeft lineLeft
  have groupedRight : dialect.Enclosed ("(?:" ++ right ++ ")") := .group ownRight lineRight
  obtain ⟨beginning, ending, readBeginning, readEnding, either⟩ :=
    documented.alternation true _ _ _ groupedLeft.start groupedRight.finish (split ▸ read)
  obtain ⟨first, readFirst, started⟩ := documented.start true _ _ groupedLeft readBeginning
  obtain ⟨last, readLast, finished⟩ := documented.finish true _ _ groupedRight readEnding
  obtain ⟨one, readOne, alikeOne⟩ := documented.group true _ _ ownLeft readFirst
  obtain ⟨other, readOther, alikeOther⟩ := documented.group true _ _ ownRight readLast
  refine ⟨one, other, readOne, readOther, fun subject => (found subject).trans ?_⟩
  simp only [either, started, finished, alikeOne subject, alikeOther subject]
  constructor
  · rintro ⟨first, last, ⟨rfl, matched⟩ | ⟨rfl, matched⟩⟩
    · exact Or.inl ⟨last, matched⟩
    · exact Or.inr ⟨first, matched⟩
  · rintro (⟨last, matched⟩ | ⟨first, matched⟩)
    · exact ⟨0, last, Or.inl ⟨rfl, matched⟩⟩
    · exact ⟨first, subject.length, Or.inr ⟨rfl, matched⟩⟩

end Documented

end Dialect

end DiagnosticGateway.Pattern
