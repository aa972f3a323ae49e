import Mathlib.Data.List.Basic
import Mathlib.Data.List.Flatten
import DiagnosticGateway.Proofs.Pattern.Dialect

/-!
# A plain library

A small language that keeps to the documented rules, so that what is proved of every documented
library can be seen at work: hexadecimal digits, the point, anchors, bars, groups and the flag for
the case of letters. All that it reads means the same in a larger language.

A text is split into tokens, and these are read with the groups that are still open. An expression
is what it matches: for a place of a subject, the places where its matches end.
-/

namespace DiagnosticGateway.Pattern.Plain

/-! ## Meanings -/

/-- Where the matches of an expression end that begin at a place of a subject. -/
abbrev Meaning := List Char → Nat → List Nat

namespace Meaning

/-- Nothing is matched. -/
def nothing : Meaning := fun _ _ => []

/-- The empty stretch is matched everywhere. -/
def empty : Meaning := fun _ place => [place]

/-- The empty stretch is matched at the start of a subject. -/
def start : Meaning := fun _ place => if place = 0 then [place] else []

/-- The empty stretch is matched at the end of a subject. -/
def finish : Meaning := fun subject place => if place = subject.length then [place] else []

/-- One character is matched if it meets a condition. -/
def one (condition : Char → Bool) : Meaning := fun subject place =>
  if subject[place]?.any condition then [place + 1] else []

/-- One expression is matched after the other. -/
def follow (first second : Meaning) : Meaning := fun subject place =>
  (first subject place).flatMap (second subject)

/-- One of two expressions is matched. -/
def either (first second : Meaning) : Meaning := fun subject place =>
  first subject place ++ second subject place

/-- Meanings that follow one another may be grouped in any way. -/
theorem follow_assoc (first second third : Meaning) :
    (first.follow second).follow third = first.follow (second.follow third) := by
  funext subject place
  exact List.flatMap_assoc

/-- What matches nothing but the empty text adds nothing in front. -/
theorem empty_follow (meaning : Meaning) : empty.follow meaning = meaning := by
  funext subject place
  exact List.flatMap_singleton ..

/-- Whether a subject is matched somewhere. -/
def occursIn (subject : String) (meaning : Meaning) : Bool :=
  (List.range (subject.length + 1)).any fun place => !(meaning subject.toList place).isEmpty

/-- The stretch of a subject between two places is matched. -/
def Spans (subject : String) (meaning : Meaning) (first last : Nat) : Prop :=
  first ≤ subject.length ∧ last ∈ meaning subject.toList first

/-- A subject is matched somewhere if one of its stretches is. -/
theorem occursIn_iff (subject : String) (meaning : Meaning) :
    meaning.occursIn subject = true ↔ ∃ first last, meaning.Spans subject first last := by
  simp only [occursIn, Spans, List.any_eq_true, List.mem_range, Nat.lt_succ_iff,
    Bool.not_eq_true', List.isEmpty_eq_false_iff_exists_mem, exists_and_left]

/-- What follows an anchor at the start is matched from there. -/
theorem spans_start_follow (meaning : Meaning) (subject : String) (first last : Nat) :
    (start.follow meaning).Spans subject first last ↔
      first = 0 ∧ meaning.Spans subject first last := by
  by_cases beginning : first = 0 <;> simp [Spans, follow, start, beginning]

/-- What precedes an anchor at the end is matched up to there. The anchor matches the empty stretch
at one place only, which is the end. -/
theorem spans_follow_finish (meaning : Meaning) (subject : String) (first last : Nat) :
    (meaning.follow finish).Spans subject first last ↔
      last = subject.length ∧ meaning.Spans subject first last := by
  simp only [Spans, follow, finish, List.mem_flatMap]
  constructor
  · rintro ⟨inside, place, found, ends⟩
    split at ends
    · rename_i ending
      obtain rfl := List.mem_singleton.mp ends
      exact ⟨ending, inside, found⟩
    · cases ends
  · rintro ⟨rfl, inside, found⟩
    exact ⟨inside, _, found, by simp [String.length_toList]⟩

/-- One of two expressions matches a stretch if either does. -/
theorem spans_either (one other : Meaning) (subject : String) (first last : Nat) :
    (one.either other).Spans subject first last ↔
      one.Spans subject first last ∨ other.Spans subject first last := by
  simp [Spans, either, and_or_left]

end Meaning

/-! ## Tokens -/

/-- The parts of a text that belong to the group in which they stand. They are read without looking
at the groups around. -/
inductive Part where
  | digit (char : Char)
  | point
  | start
  | finish
  | bar
  /-- From here on letters match in both cases. -/
  | folds
  deriving DecidableEq

/-- The parts of a text. -/
inductive Token where
  | opens
  | closes
  | within (part : Part)
  deriving DecidableEq

/-- The token of one character. Letters are digits up to the sixth, in both cases. -/
def single? (char : Char) : Option Token :=
  if char = ')' then some .closes
  else if char = '.' then some (.within .point)
  else if char = '^' then some (.within .start)
  else if char = '$' then some (.within .finish)
  else if char = '|' then some (.within .bar)
  else if char.isDigit || ('A' ≤ char.toUpper && char.toUpper ≤ 'F') then
    some (.within (.digit char))
  else none

/-- The tokens of a text, if it consists of tokens. -/
def tokens? : List Char → Option (List Token)
  | [] => some []
  | '(' :: '?' :: ':' :: rest => (tokens? rest).map (Token.opens :: ·)
  | '(' :: '?' :: 'i' :: ')' :: rest => (tokens? rest).map (Token.within .folds :: ·)
  | char :: rest => (single? char).bind fun token => (tokens? rest).map (token :: ·)

/-- A parenthesis alone is no token, so it is always read with what follows it. -/
theorem ne_parenthesis_of_single? {char : Char} {token : Token}
    (found : single? char = some token) : char ≠ '(' := by
  rintro rfl
  have missing : single? '(' = none := by decide
  cases missing.symm.trans found

/-- Any other character is a token by itself. -/
theorem tokens?_cons {char : Char} (plain : char ≠ '(') (rest : List Char) :
    tokens? (char :: rest) =
      (single? char).bind fun token => (tokens? rest).map (token :: ·) := by
  rw [tokens?]
  · rintro _ rfl
    exact absurd rfl plain
  · rintro _ rfl
    exact absurd rfl plain

/-- A text that consists of tokens keeps them whatever follows it. The induction is that of the
tokenizer, which looks at one character or two. -/
theorem tokens?_append {chars : List Char} {tokens : List Token}
    (found : tokens? chars = some tokens) (more : List Char) :
    tokens? (chars ++ more) = (tokens? more).map (tokens ++ ·) := by
  fun_induction tokens? chars generalizing tokens with
  | case1 =>
    cases found
    simp
  | case2 rest inductionHypothesis =>
    obtain ⟨others, foundRest, rfl⟩ := Option.map_eq_some_iff.mp found
    simp [tokens?, inductionHypothesis foundRest, Function.comp_def]
  | case3 rest inductionHypothesis =>
    obtain ⟨others, foundRest, rfl⟩ := Option.map_eq_some_iff.mp found
    simp [tokens?, inductionHypothesis foundRest, Function.comp_def]
  | case4 char rest _ _ inductionHypothesis =>
    obtain ⟨token, foundOne, foundMore⟩ := Option.bind_eq_some_iff.mp found
    obtain ⟨others, foundRest, rfl⟩ := Option.map_eq_some_iff.mp foundMore
    rw [List.cons_append, tokens?_cons (ne_parenthesis_of_single? foundOne), foundOne,
      inductionHypothesis foundRest]
    simp [Function.comp_def]

/-- An anchor before a text is a token before its tokens. -/
theorem tokens?_start {text : String} {tokens : List Token}
    (found : tokens? text.toList = some tokens) :
    tokens? ("^" ++ text).toList = some (.within .start :: tokens) := by
  have anchor : tokens? ['^'] = some [.within .start] := by decide
  rw [String.toList_append]
  exact (tokens?_append anchor _).trans (congrArg _ found)

/-- An anchor after a text is a token after its tokens. -/
theorem tokens?_finish {text : String} {tokens : List Token}
    (found : tokens? text.toList = some tokens) :
    tokens? (text ++ "$").toList = some (tokens ++ [.within .finish]) := by
  have anchor : tokens? ['$'] = some [.within .finish] := by decide
  rw [String.toList_append, tokens?_append found]
  exact congrArg _ anchor

/-- A token in front of a text adds its characters to what precedes the parenthesis. The induction
over the text is the caller's, and its hypothesis is an argument here. -/
theorem split_of_lead (lead : List Char) {rest : List Char} {first : Token}
    {before after : List Token} (reads : ∀ more, tokens? (lead ++ more) =
      (tokens? more).map (first :: ·))
    (found : (tokens? rest).map (first :: ·) = some (before ++ .closes :: after))
    (stays : first = .closes → before ≠ [])
    (splits : ∀ {earlier}, tokens? rest = some (earlier ++ .closes :: after) →
      ∃ body more, rest = body ++ ')' :: more ∧ tokens? body = some earlier) :
    ∃ body more, lead ++ rest = body ++ ')' :: more ∧ tokens? body = some before := by
  obtain ⟨others, foundRest, same⟩ := Option.map_eq_some_iff.mp found
  cases before with
  | nil => exact absurd rfl (stays (List.cons.inj same).1)
  | cons token earlier =>
    obtain ⟨rfl, rfl⟩ := List.cons.inj same
    obtain ⟨body, more, rfl, foundBody⟩ := splits foundRest
    refine ⟨lead ++ body, more, (List.append_assoc ..).symm, ?_⟩
    rw [reads, foundBody]
    rfl

/-- A token that closes a group is a parenthesis of the text, and what precedes it consists of the
tokens before. -/
theorem split_of_tokens? {chars : List Char} {before after : List Token}
    (found : tokens? chars = some (before ++ .closes :: after)) :
    ∃ body rest, chars = body ++ ')' :: rest ∧ tokens? body = some before := by
  fun_induction tokens? chars generalizing before with
  | case1 => simp at found
  | case2 rest inductionHypothesis =>
    exact split_of_lead ['(', '?', ':'] (fun _ => rfl) found nofun inductionHypothesis
  | case3 rest inductionHypothesis =>
    exact split_of_lead ['(', '?', 'i', ')'] (fun _ => rfl) found nofun inductionHypothesis
  | case4 char rest _ _ inductionHypothesis =>
    obtain ⟨token, foundOne, foundMore⟩ := Option.bind_eq_some_iff.mp found
    cases before with
    | nil =>
      -- The parenthesis is the first character, and nothing precedes it.
      obtain ⟨others, -, same⟩ := Option.map_eq_some_iff.mp foundMore
      obtain ⟨rfl, rfl⟩ := List.cons.inj same
      have closing : char = ')' := by
        unfold single? at foundOne
        grind
      exact ⟨[], rest, by rw [closing]; rfl, rfl⟩
    | cons first earlier =>
      refine split_of_lead [char] (fun more => ?_) foundMore (fun _ => nofun) inductionHypothesis
      rw [List.singleton_append, tokens?_cons (ne_parenthesis_of_single? foundOne), foundOne]
      rfl

/-! ## Reading -/

/-- A group that is being read. -/
structure Frame where
  /-- What the branches before the last bar match. -/
  earlier : Meaning
  /-- What has been read after that bar matches. -/
  branch : Meaning
  /-- Letters match in both cases. -/
  foldCase : Bool

namespace Frame

/-- A group of which nothing has been read. -/
def new (foldCase : Bool) : Frame := ⟨.nothing, .empty, foldCase⟩

/-- What the group matches if it ends here. -/
def meaning (frame : Frame) : Meaning := frame.earlier.either frame.branch

/-- Go on with something. -/
def push (meaning : Meaning) (frame : Frame) : Frame :=
  { frame with branch := frame.branch.follow meaning }

/-- To go on with two things is to go on with both in a row. -/
theorem push_push (first second : Meaning) (frame : Frame) :
    (frame.push first).push second = frame.push (first.follow second) := by
  simp [push, Meaning.follow_assoc]

/-- A group that holds a single thing matches what that matches. -/
theorem meaning_new_push (foldCase : Bool) (meaning : Meaning) :
    ((new foldCase).push meaning).meaning = meaning := by
  funext subject place
  simp [new, push, Frame.meaning, Meaning.either, Meaning.nothing, Meaning.empty_follow]

end Frame

/-- Read a part of a group. A bar ends a branch, and digits are taken in the case that holds. -/
def Part.read (frame : Frame) : Part → Frame
  | digit char => frame.push <| .one fun other =>
      other == char || (frame.foldCase && other.toUpper == char.toUpper)
  | point => frame.push (.one (· != '\n'))
  | start => frame.push .start
  | finish => frame.push .finish
  | bar => { frame with earlier := frame.meaning, branch := .empty }
  | folds => { frame with foldCase := true }

/-- Read tokens within a group and the groups around it, up to the end of the outermost one. -/
def run : List Token → Frame → (outer : List Frame) → Option Frame
  | [], current, [] => some current
  | [], _, _ :: _ => none
  | .within part :: rest, current, outer => run rest (part.read current) outer
  | .opens :: rest, current, outer => run rest (.new current.foldCase) (current :: outer)
  | .closes :: _, _, [] => none
  | .closes :: rest, current, next :: others => run rest (next.push current.meaning) others

/-- Whether tokens can be read depends on the number of open groups, and not on what these hold. A
parenthesis that closes a group needs one that is open, and nothing else can fail. -/
theorem isSome_run (tokens : List Token) {current other : Frame} {outer others : List Frame}
    (same : outer.length = others.length) :
    (run tokens current outer).isSome = (run tokens other others).isSome := by
  induction tokens generalizing current other outer others with
  | nil => cases outer <;> cases others <;> simp_all [run]
  | cons token rest inductionHypothesis =>
    cases token with
    | closes =>
      cases outer <;> cases others <;> simp_all only [run, List.length_cons, List.length_nil]
      · cases same
      · cases same
      · exact inductionHypothesis (Nat.succ.inj same)
    | opens => exact inductionHypothesis (congrArg Nat.succ same)
    | within part => exact inductionHypothesis same

/-- Tokens that can be read to their end leave the groups around them alone. The induction is on the
tokens. As long as those inside have not run out, what lies around them is not looked at. -/
theorem run_append {tokens : List Token} {current last : Frame} {inner : List Frame}
    (read : run tokens current inner = some last) (rest : List Token) (outer : List Frame) :
    run (tokens ++ rest) current (inner ++ outer) = run rest last outer := by
  induction tokens generalizing current inner with
  | nil =>
    cases inner with
    | nil =>
      cases read
      rfl
    | cons next others => cases read
  | cons token more inductionHypothesis =>
    cases token with
    | closes =>
      cases inner with
      | nil => cases read
      | cons next others => exact inductionHypothesis read
    | opens => exact inductionHypothesis read
    | within part => exact inductionHypothesis read

/-- A group that is open is closed by one of the tokens, and those before it can be read alone. It
is the first token at which the groups that were opened later are all closed again. -/
theorem closes_of_run {tokens : List Token} {current base last : Frame} {inner : List Frame}
    (read : run tokens current (inner ++ [base]) = some last) :
    ∃ before after, tokens = before ++ .closes :: after ∧
      (run before current inner).isSome = true := by
  induction tokens generalizing current inner with
  | nil => cases inner <;> cases read
  | cons token more inductionHypothesis =>
    cases token with
    | closes =>
      cases inner with
      | nil => exact ⟨[], more, rfl, rfl⟩
      | cons next others =>
        obtain ⟨before, after, rfl, readable⟩ := inductionHypothesis read
        exact ⟨.closes :: before, after, rfl, readable⟩
    | opens =>
      have inside : run more (.new current.foldCase) ((current :: inner) ++ [base]) = some last :=
        read
      obtain ⟨before, after, rfl, readable⟩ := inductionHypothesis inside
      exact ⟨.opens :: before, after, rfl, readable⟩
    | within part =>
      obtain ⟨before, after, rfl, readable⟩ := inductionHypothesis read
      exact ⟨.within part :: before, after, rfl, readable⟩

/-- Tokens that only go on with something, in the case that is given: where they are read, what
stands before, around and after them makes no difference. -/
def GoesOn (foldCase : Bool) (tokens : List Token) (meaning : Meaning) : Prop :=
  ∀ current outer rest, current.foldCase = foldCase →
    run (tokens ++ rest) current outer = run rest (current.push meaning) outer

/-- A group of tokens that can be read alone goes on with what they match. -/
theorem goesOn_group {foldCase : Bool} {tokens : List Token} {last : Frame}
    (read : run tokens (.new foldCase) [] = some last) :
    GoesOn foldCase (.opens :: tokens ++ [.closes]) last.meaning := by
  rintro current outer rest rfl
  have inside := run_append read (.closes :: rest) (current :: outer)
  simpa [run] using inside

namespace GoesOn

variable {foldCase : Bool} {tokens : List Token} {meaning : Meaning}

/-- An anchor before the tokens is read before them. -/
theorem start (goesOn : GoesOn foldCase tokens meaning) :
    GoesOn foldCase (.within .start :: tokens) (Meaning.start.follow meaning) := by
  intro current outer rest same
  rw [← Frame.push_push]
  exact goesOn (current.push .start) outer rest same

/-- An anchor after the tokens is read after them. -/
theorem finish (goesOn : GoesOn foldCase tokens meaning) :
    GoesOn foldCase (tokens ++ [.within .finish]) (meaning.follow .finish) := by
  intro current outer rest same
  rw [List.append_assoc, goesOn current outer _ same, ← Frame.push_push]
  rfl

/-- The tokens alone match what they go on with. -/
theorem run_alone (goesOn : GoesOn foldCase tokens meaning) :
    run tokens (.new foldCase) [] = some ((Frame.new foldCase).push meaning) := by
  have alone := goesOn (.new foldCase) [] [] rfl
  rwa [List.append_nil] at alone

end GoesOn

/-! ## The library -/

/-- Read a text. -/
def read (foldCase : Bool) (text : String) : Option Meaning :=
  (tokens? text.toList).bind fun tokens => (run tokens (.new foldCase) []).map Frame.meaning

/-- The language of the library. -/
def dialect : Dialect where
  Expr := Meaning
  read := read
  Matches := Meaning.Spans

/-- The library. -/
def library : Library where
  compile text :=
    match read false text with
    | some meaning => .ok ⟨fun subject => meaning.occursIn subject⟩
    | none => .error "unexpected character or parenthesis"

/-- A text whose tokens go on with something matches that. -/
theorem read_of_goesOn {foldCase : Bool} {text : String} {tokens : List Token} {meaning : Meaning}
    (found : tokens? text.toList = some tokens) (goesOn : GoesOn foldCase tokens meaning) :
    read foldCase text = some meaning := by
  rw [read, found, Option.bind_some, goesOn.run_alone, Option.map_some, Frame.meaning_new_push]

/-- A text that can be read has tokens that can be read. Its meaning is that of the outermost
group. -/
theorem isSome_read_iff {foldCase : Bool} {text : String} :
    (read foldCase text).isSome = true ↔
      ∃ tokens last, tokens? text.toList = some tokens ∧
        run tokens (.new foldCase) [] = some last ∧ read foldCase text = some last.meaning := by
  constructor
  · intro readable
    obtain ⟨meaning, found⟩ := Option.isSome_iff_exists.mp readable
    obtain ⟨tokens, foundTokens, more⟩ := Option.bind_eq_some_iff.mp found
    obtain ⟨last, reads, rfl⟩ := Option.map_eq_some_iff.mp more
    exact ⟨tokens, last, foundTokens, reads, found⟩
  · rintro ⟨tokens, last, -, -, found⟩
    rw [found]
    rfl

/-- The same texts can be read in one case and in both. -/
theorem isSome_read (text : String) : (read true text).isSome = (read false text).isSome := by
  unfold read
  cases tokens? text.toList with
  | none => rfl
  | some tokens =>
    simp only [Option.bind_some, Option.isSome_map]
    exact isSome_run tokens rfl

/-- A group of a pattern goes on with what the pattern matches. Its parentheses keep apart what is
read in it and what is read around it. -/
theorem goesOn_of_isPattern {body : String} (own : dialect.IsPattern body) (foldCase : Bool) :
    ∃ tokens meaning, tokens? ("(?:" ++ body ++ ")").toList = some tokens ∧
      GoesOn foldCase tokens meaning ∧ read foldCase body = some meaning := by
  have readable : (read foldCase body).isSome = true := by
    cases foldCase with
    | false => exact own
    | true => exact (isSome_read body).trans own
  obtain ⟨tokens, last, found, reads, same⟩ := isSome_read_iff.mp readable
  refine ⟨.opens :: tokens ++ [.closes], last.meaning, ?_, goesOn_group reads, same⟩
  have closing : tokens? [')'] = some [.closes] := by decide
  simp [tokens?, tokens?_append found, closing]

/-- A text that nothing beside it can change goes on with what it matches. The induction is on how
the text is put together. -/
theorem goesOn_of_enclosed {text : String} (enclosed : dialect.Enclosed text) (foldCase : Bool) :
    ∃ tokens meaning, tokens? text.toList = some tokens ∧ GoesOn foldCase tokens meaning := by
  induction enclosed with
  | group own line =>
    obtain ⟨tokens, meaning, found, goesOn, -⟩ := goesOn_of_isPattern own foldCase
    exact ⟨tokens, meaning, found, goesOn⟩
  | start enclosed inductionHypothesis =>
    obtain ⟨tokens, meaning, found, goesOn⟩ := inductionHypothesis
    exact ⟨_, _, tokens?_start found, goesOn.start⟩
  | finish enclosed inductionHypothesis =>
    obtain ⟨tokens, meaning, found, goesOn⟩ := inductionHypothesis
    exact ⟨_, _, tokens?_finish found, goesOn.finish⟩

/-- What stands in a group, up to the parenthesis that closes it, can be read. This is what an
escape looks like: the text closes the group it was put into and goes on behind it. -/
theorem closed_of_read {foldCase : Bool} {text : String}
    (readable : (read foldCase ("^(?:" ++ text)).isSome = true) :
    ∃ body rest, text = body ++ ")" ++ rest ∧ (read foldCase body).isSome = true := by
  obtain ⟨tokens, last, found, reads, -⟩ := isSome_read_iff.mp readable
  have opening : tokens? "^(?:".toList = some [.within .start, .opens] := by decide
  rw [String.toList_append, tokens?_append opening] at found
  obtain ⟨inside, foundText, rfl⟩ := Option.map_eq_some_iff.mp found
  have opened : run inside (.new foldCase) ([] ++ [(Frame.new foldCase).push .start]) =
      some last := reads
  obtain ⟨before, after, rfl, readsBefore⟩ := closes_of_run opened
  obtain ⟨body, rest, split, foundBody⟩ := split_of_tokens? foundText
  refine ⟨String.ofList body, String.ofList rest, ?_, ?_⟩
  · simp [← String.toList_inj, split]
  · rw [read, String.toList_ofList, foundBody, Option.bind_some, Option.isSome_map]
    exact (isSome_run before rfl).trans readsBefore

/-- A bar between texts that nothing beside them can change separates them. Beside a bar each of
them is an alternative as a whole. -/
theorem read_bar {foldCase : Bool} {left right : String} {one other : List Token}
    {first second : Meaning} (foundLeft : tokens? left.toList = some one)
    (foundRight : tokens? right.toList = some other) (goesLeft : GoesOn foldCase one first)
    (goesRight : GoesOn foldCase other second) :
    read foldCase (left ++ "|" ++ right) = some (first.either second) := by
  have bar : tokens? ['|'] = some [.within .bar] := by decide
  have found : tokens? (left ++ "|" ++ right).toList =
      some (one ++ (.within .bar :: other)) := by
    rw [String.toList_append, String.toList_append, List.append_assoc, tokens?_append foundLeft]
    exact congrArg _ ((tokens?_append bar _).trans (congrArg _ foundRight))
  have before := goesLeft (.new foldCase) [] (.within .bar :: other) rfl
  have after := goesRight (Part.bar.read ((Frame.new foldCase).push first)) [] [] rfl
  rw [List.append_nil] at after
  rw [read, found, Option.bind_some, before]
  change (run other (Part.bar.read ((Frame.new foldCase).push first)) []).map Frame.meaning = _
  rw [after]
  change some (((Frame.new foldCase).push first).meaning.either
    (Meaning.empty.follow second)) = _
  rw [Frame.meaning_new_push, Meaning.empty_follow]

/-- The plain library keeps to the documented rules. Each rule comes from the lemma about the tokens
that corresponds to it. -/
theorem documented : dialect.Documented library where
  compiled text pattern compiled := by
    change (match read false text with
      | some meaning => Except.ok (Pattern.mk fun subject => meaning.occursIn subject)
      | none => .error _) = .ok pattern at compiled
    split at compiled
    · rename_i meaning found
      cases compiled
      exact ⟨meaning, found, fun subject => meaning.occursIn_iff subject⟩
    · cases compiled
  foldable := isSome_read
  setsFlag foldCase text expr found := by
    have flag : tokens? "(?i)".toList = some [.within .folds] := by decide
    have same : read foldCase ("(?i)" ++ text) = read true text := by
      rw [read, String.toList_append, tokens?_append flag, read]
      cases tokens? text.toList <;> rfl
    exact ⟨expr, same.symm.trans found, fun _ _ _ => Iff.rfl⟩
  group foldCase body expr own found := by
    obtain ⟨tokens, meaning, foundTokens, goesOn, foundBody⟩ := goesOn_of_isPattern own foldCase
    obtain rfl := Option.some.inj ((read_of_goesOn foundTokens goesOn).symm.trans found)
    exact ⟨meaning, foundBody, fun _ _ _ => Iff.rfl⟩
  closed foldCase text expr found := closed_of_read (Option.isSome_of_eq_some found)
  start foldCase text expr enclosed found := by
    obtain ⟨tokens, meaning, foundTokens, goesOn⟩ := goesOn_of_enclosed enclosed foldCase
    have whole := read_of_goesOn (tokens?_start foundTokens) goesOn.start
    obtain rfl := Option.some.inj (whole.symm.trans found)
    exact ⟨meaning, read_of_goesOn foundTokens goesOn, meaning.spans_start_follow⟩
  finish foldCase text expr enclosed found := by
    obtain ⟨tokens, meaning, foundTokens, goesOn⟩ := goesOn_of_enclosed enclosed foldCase
    have whole := read_of_goesOn (tokens?_finish foundTokens) goesOn.finish
    obtain rfl := Option.some.inj (whole.symm.trans found)
    exact ⟨meaning, read_of_goesOn foundTokens goesOn, meaning.spans_follow_finish⟩
  alternation foldCase left right expr enclosedLeft enclosedRight found := by
    obtain ⟨one, first, foundLeft, goesLeft⟩ := goesOn_of_enclosed enclosedLeft foldCase
    obtain ⟨other, second, foundRight, goesRight⟩ := goesOn_of_enclosed enclosedRight foldCase
    have both := read_bar foundLeft foundRight goesLeft goesRight
    obtain rfl := Option.some.inj (both.symm.trans found)
    exact ⟨first, second, read_of_goesOn foundLeft goesLeft, read_of_goesOn foundRight goesRight,
      Meaning.spans_either first second⟩

end DiagnosticGateway.Pattern.Plain
