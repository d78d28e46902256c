import ScriptTree.Proofs.Grammar.Running
import ScriptTree.Proofs.Height.Measure
import ScriptTree.Proofs.Lexeme.Step

/-! # Towers — trees that the nesting limit does not bound

    A tower is a name behind any number of `new`.  Each `new` makes a node around
    the operand behind it, and that operand is parsed on the same level.  So the
    tree of a tower is as high as the tower, in either mode, and no tower is an
    error.

    The text is scanned along its characters; the parse is then followed phrase by
    phrase with `Yields`, from the operand out to the program. -/

namespace ScriptTree

/-- A name behind so many times `new`. -/
def tower : Nat → List Char
  | 0 => ['a']
  | n + 1 => 'n' :: 'e' :: 'w' :: ' ' :: tower n

namespace Tower

/-! ## The lexemes of a tower -/

/-- The word `new` at an offset. -/
def newLexeme (o : Nat) : Lexeme :=
  ⟨[], [], ⟨.keyword .newWord, ⟨o, o + 3⟩, false, "new"⟩, false, false⟩

/-- The name at an offset. -/
def nameLexeme (o : Nat) : Lexeme :=
  ⟨[], [], ⟨.name "a", ⟨o, o + 1⟩, false, "a"⟩, true, false⟩

/-- The end of input at an offset. -/
def endLexeme (o : Nat) : Lexeme := ⟨[], [], ⟨.endOfInput, .point o, false, ""⟩, true, false⟩

/-- The first lexeme of a tower that begins at an offset. -/
def first (o : Nat) : Nat → Lexeme
  | 0 => nameLexeme o
  | _ + 1 => newLexeme o

/-- The lexemes behind the first one. -/
def rest (o : Nat) : Nat → List Lexeme
  | 0 => [endLexeme (o + 1)]
  | n + 1 => first (o + 4) n :: rest (o + 4) n

/-- Behind the first word stand as many lexemes as there are further words, and the name. -/
theorem length_rest (o n : Nat) : (rest o n).length = n + 1 := by
  induction n generalizing o with
  | zero => rfl
  | succ n ih => rw [rest, List.length_cons, ih]

section Scanning

variable {s : Scanner} {o : Nat} {text : List Char}

/-- The word is read. -/
theorem textTo_new :
    Cursor.textTo ⟨o, 'n' :: 'e' :: 'w' :: ' ' :: text⟩ ⟨o + 3, ' ' :: text⟩ = ['n', 'e', 'w'] :=
  Cursor.textTo_eq ⟨rfl, rfl⟩

/-- The name is read. -/
theorem textTo_name : Cursor.textTo ⟨o, ['a']⟩ ⟨o + 1, []⟩ = ['a'] := Cursor.textTo_eq ⟨rfl, rfl⟩

/-- The word is a keyword. -/
theorem word?_new : s.word? ⟨o, 'n' :: 'e' :: 'w' :: ' ' :: text⟩ =
    some ⟨.keyword .newWord, ⟨o + 3, ' ' :: text⟩, []⟩ := by
  have stop : Cursor.skipWhile Character.isIdentifierPart
      ⟨o, 'n' :: 'e' :: 'w' :: ' ' :: text⟩ = ⟨o + 3, ' ' :: text⟩ := rfl
  show some (Scanner.scanWord _) = _
  simp only [Scanner.scanWord, stop, textTo_new]
  rfl

/-- The name is a name. -/
theorem word?_name : s.word? ⟨o, ['a']⟩ = some ⟨.name "a", ⟨o + 1, []⟩, []⟩ := by
  have stop : Cursor.skipWhile Character.isIdentifierPart ⟨o, ['a']⟩ = ⟨o + 1, []⟩ := rfl
  show some (Scanner.scanWord _) = _
  simp only [Scanner.scanWord, stop, textTo_name]
  rfl

/-- The next lexeme is the word. -/
theorem next_new
    (skipped : (Trivia.start s.cursor).skip = .start ⟨o, 'n' :: 'e' :: 'w' :: ' ' :: text⟩) :
    s.next = (newLexeme o, { s with cursor := ⟨o + 3, ' ' :: text⟩, regExpAllowed := true }) := by
  rw [Scanner.next_of_word skipped word?_new, Lexeme.ofWord]
  simp only [Trivia.start, textTo_new]
  rfl

/-- The last one is the name. -/
theorem next_name (skipped : (Trivia.start s.cursor).skip = .start ⟨o, ['a']⟩) :
    s.next = (nameLexeme o, { s with cursor := ⟨o + 1, []⟩, regExpAllowed := false }) := by
  rw [Scanner.next_of_word skipped word?_name, Lexeme.ofWord]
  simp only [Trivia.start, textTo_name]
  rfl

/-- A tower begins with a word. -/
theorem skip_tower (n : Nat) : (Trivia.start ⟨o, tower n⟩).skip = .start ⟨o, tower n⟩ := by
  cases n <;> exact Trivia.skip_of_none rfl

/-- The scanner finds word by word, and the name. -/
theorem lexemesAfter_tower (n : Nat) (found : Array Lexeme)
    (skipped : (Trivia.start s.cursor).skip = .start ⟨o, tower n⟩) :
    (s.lexemesAfter found).toList = found.toList ++ first o n :: rest o n := by
  induction n generalizing o s found with
  | zero =>
      rw [Scanner.lexemesAfter_of_next (next_name skipped) rfl,
        Scanner.lexemesAfter_of_end (Scanner.next_of_end (Trivia.skip_of_none rfl) rfl) rfl,
        Array.toList_push, Array.toList_push, List.append_assoc]
      rfl
  | succ n ih =>
      rw [Scanner.lexemesAfter_of_next (next_new skipped) rfl]
      -- One blank stands between the word and the tower behind it.
      rw [ih (found.push (newLexeme o)) ((Trivia.skip_of_some rfl).trans (skip_tower n)),
        Array.toList_push, List.append_assoc]
      rfl

/-- The lexemes of a tower. -/
theorem ofText_tower (n : Nat) : Lexeme.ofText (tower n) = first 0 n :: rest 0 n :=
  lexemesAfter_tower n #[] (skip_tower n)

end Scanning

end Tower

/-! ## Following a parse -/

namespace Rule

variable {α β : Type} {mode : Mode} {lines : LineIndex} {fuel : Nat} {p q r : Progress Unit}

/-- A parse that nobody watches runs through the rule and ends with a value. -/
def Yields (mode : Mode) (lines : LineIndex) (fuel : Nat) (rule : Rule α) (p : Progress Unit)
    (a : α) (q : Progress Unit) : Prop :=
  rule.run ⟨mode, lines, .silent⟩ fuel (derive ⟨mode, lines, .silent⟩ fuel) p = .done a q

namespace Yields

/-- One rule yields its value behind another. -/
theorem bind {rule : Rule α} {f : α → Rule β} {a : α} {b : β}
    (h : rule.Yields mode lines fuel p a q) (k : (f a).Yields mode lines fuel q b r) :
    (rule >>= f).Yields mode lines fuel p b r := by
  rw [Yields, run_bind, h]
  exact k

variable {phrase : Nonterminal} {n : Node}

/-- A phrase that is derived yields what is derived. -/
theorem same (h : derive ⟨mode, lines, .silent⟩ fuel phrase p = .done n q) :
    (Grammar.parse phrase).Yields mode lines fuel p n q := by
  show (derive _ fuel phrase p).andThen _ = _
  rw [h]
  rfl

/-- A nested phrase yields it one level deeper. -/
theorem nested {inside : Progress Unit} (allowed : p.situation.depth < nestingLimit)
    (entered : inside = { p with situation := { p.situation with depth := p.situation.depth + 1 } })
    (h : derive ⟨mode, lines, .silent⟩ fuel phrase inside = .done n q)
    (left : r = { q with situation := { q.situation with depth := q.situation.depth - 1 } }) :
    (Grammar.parseNested phrase).Yields mode lines fuel p n r := by
  subst entered left
  show (Progress.call _ _ .nested phrase p).andThen _ = _
  simp only [Progress.call]
  rw [if_neg (Nat.not_le.mpr allowed), h]
  rfl

end Yields

end Rule

namespace Tower

open Grammar Rule

/-! ## The tree of a tower -/

/-- Where a tower ends. -/
def stop (o : Nat) : Nat → Nat
  | 0 => o + 1
  | n + 1 => stop (o + 4) n

/-- How many tokens are taken behind a tower, of which `c` stood before it. -/
def count (c : Nat) : Nat → Nat
  | 0 => c + 1
  | n + 1 => count (c + 1) n

/-- No tower is without tokens. -/
theorem count_pos (c n : Nat) : 0 < count c n := by
  induction n generalizing c with
  | zero => exact Nat.succ_pos c
  | succ n ih => exact ih (c + 1)

/-- The operand a tower is. -/
def operand (o : Nat) : Nat → Node
  | 0 => .bare (.identifier "a") ⟨o, max (o + 1) o⟩
  | n + 1 => .bare (.newExpression (operand (o + 4) n) []) ⟨o, max (stop (o + 4) n) o⟩

/-- The operand as a statement. -/
def sentence (o n : Nat) : Node :=
  .bare (.expressionStatement (operand o n)) ⟨o, max (stop o n) o⟩

/-- The tree of a tower. -/
def tree (n : Nat) : Node :=
  .bare (.program [sentence 0 n]) ⟨0, max (Text.byteLength (tower n)) 0⟩

/-- Every `new` makes the tree a node higher. -/
theorem height_operand (o n : Nat) : (operand o n).height = n + 1 := by
  induction n generalizing o with
  | zero => exact Node.height_of_leaf rfl
  | succ n ih =>
      have child : (operand o (n + 1)).children = [operand (o + 4) n] := rfl
      rw [Node.height_of_child child, ih]

/-- The tree is two nodes higher than the tower has words, and one for the name. -/
theorem height_tree (n : Nat) : (tree n).height = n + 3 := by
  have program : (tree n).children = [sentence 0 n] := rfl
  have statement : (sentence 0 n).children = [operand 0 n] := rfl
  rw [Node.height_of_child program, Node.height_of_child statement, height_operand]

/-- A parse in front of a tower. -/
def before (o n previous c depth : Nat) : Progress Unit :=
  ⟨⟨first o n, rest o n, previous, c, depth, false⟩, ()⟩

/-- A parse behind a tower. -/
def behind (o n c depth : Nat) : Progress Unit :=
  ⟨⟨endLexeme (stop o n), [], stop o n, count c n, depth, false⟩, ()⟩

variable {mode : Mode} {lines : LineIndex} {fuel o n previous c depth : Nat}

/-- A word is taken. -/
theorem take_yields : take.Yields mode lines fuel (before o (n + 1) previous c depth)
    (newLexeme o).token (before (o + 4) n (o + 3) (c + 1) depth) := by
  cases n <;> rfl

/-- The offset is told. -/
theorem here_yields : here.Yields mode lines fuel (before o n previous c depth) o
    (before o n previous c depth) := by
  cases n <;> rfl

/-- A node is opened at it. -/
theorem openNode_yields : openNode.Yields mode lines fuel (before o n previous c depth) ⟨o, []⟩
    (before o n previous c depth) := by
  cases n <;> rfl

/-- The operand behind `new` is an operand on the same level. -/
theorem derive_atom (n : Nat) : derive ⟨mode, lines, .silent⟩ (fuel + n + 3) .atom
    (before o n previous c depth) = .done (operand o n) (behind o n c depth) := by
  induction n generalizing o previous c with
  | zero => rfl
  | succ n ih =>
      show newObject.Yields mode lines (fuel + n + 3) _ _ _
      exact .bind openNode_yields (.bind take_yields (.bind here_yields (.bind (.same ih) rfl)))

/-- An operand of so many words, by induction on their number. -/
theorem derive_unary (n : Nat) : derive ⟨mode, lines, .silent⟩ (fuel + n + 4) .unary
    (before o n previous c depth) = .done (operand o n) (behind o n c depth) := by
  have plain : Rule.Yields mode lines (fuel + n + 3) (do
      let start ← here
      let base ← Grammar.parse .atom
      let operand ← parseChain (.subscripts base start false)
      postfixOperators start operand) (before o n previous c depth) (operand o n)
      (behind o n c depth) :=
    .bind here_yields (.bind (.same (derive_atom n)) rfl)
  cases n <;> exact plain

/-- The operand is the whole assignment. -/
theorem derive_assignment (n : Nat) : derive ⟨mode, lines, .silent⟩ (fuel + n + 5)
    (.assignment false) (before o n previous c 1) = .done (operand o n) (behind o n c 1) := by
  have left : unary.Yields mode lines (fuel + n + 4) (before o n previous c 1) (operand o n)
      (behind o n c 1) :=
    .nested (show 1 < nestingLimit by decide) rfl (derive_unary n) rfl
  have test : (conditional false).Yields mode lines (fuel + n + 4) (before o n previous c 1)
      (operand o n) (behind o n c 1) :=
    .bind here_yields (.bind left rfl)
  exact (here_yields.bind (test.bind rfl) : (assignmentRule false).Yields ..)

/-- It is the whole statement. -/
theorem derive_statement (n : Nat) : derive ⟨mode, lines, .silent⟩ (fuel + n + 6) .statement
    (before o n previous c 1) = .done (sentence o n) (behind o n c 1) := by
  have inner : (expression false).Yields mode lines (fuel + n + 5) (before o n previous c 1)
      (operand o n) (behind o n c 1) :=
    .bind here_yields (.bind (.same (derive_assignment n)) rfl)
  have whole : expressionStatement.Yields mode lines (fuel + n + 5) (before o n previous c 1)
      (sentence o n) (behind o n c 1) := by
    refine .bind openNode_yields (.bind inner ?_)
    -- Neither a name nor an object is a label here.
    cases n <;> rfl
  cases n <;> exact whole

/-- It is the whole program. -/
theorem programBody_yields (n : Nat) : programBody.Yields mode lines (fuel + n + 6)
    (before 0 n 0 0 0) [sentence 0 n] (behind 0 n 0 0) := by
  have next : statement.Yields mode lines (fuel + n + 6) (before 0 n 0 0 0) (sentence 0 n)
      (behind 0 n 0 0) :=
    .nested (show 0 < nestingLimit by decide) rfl (derive_statement n) rfl
  have round : Rule.Yields mode lines (fuel + n + 6) (do
      let next ← statement
      let after ← consumed
      if after == 0 then
        let _ ← take
        pure (.again #[])
      else pure (.again (#[].push next)) : Rule (Turn (Array Node) (List Node)))
      (before 0 n 0 0 0) (.again #[sentence 0 n]) (behind 0 n 0 0) := by
    refine .bind next (.bind (a := count 0 n) rfl ?_)
    rw [if_neg (by simpa using Nat.ne_of_gt (count_pos 0 n))]
    rfl
  show Rule.Yields _ _ _ (Rule.iterate _ (fuel + n + 6) #[]) _ _ _
  refine .bind (a := .again #[sentence 0 n]) (q := behind 0 n 0 0) ?_ ?_
  · cases n <;> exact round
  · rfl

/-- A tower is no error in either mode, however high it is. -/
theorem parse_tower (mode : Mode) (n : Nat) : parse mode (tower n) = .tree (tree n) := by
  have started : (Progress.start (first 0 n :: rest 0 n) ()).advance
      ⟨mode, .ofText (tower n), .silent⟩ = .done () (before 0 n 0 0 0) := by
    cases n <;> rfl
  obtain ⟨fuel, enough⟩ : ∃ fuel, fuelFor (first 0 n :: rest 0 n).length = fuel + n + 6 := by
    refine ⟨7 * n + 8 * nestingLimit + 18, ?_⟩
    rw [List.length_cons, length_rest, fuelFor]
    omega
  have body : programBody.run ⟨mode, .ofText (tower n), .silent⟩ (fuel + n + 6) _ _ = _ :=
    programBody_yields n
  rw [parse, parseText, parseLexemes, ofText_tower, enough]
  show ((Progress.advance _ (Progress.start _ ())).andThen _).result.1 = _
  rw [started]
  show ((programBody.run _ (fuel + n + 6) _ _).andThen _).result.1 = _
  rw [body]
  rfl

end Tower

end ScriptTree
