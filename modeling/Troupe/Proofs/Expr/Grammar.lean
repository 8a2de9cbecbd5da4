import Mathlib.Data.List.Induction
import Mathlib.Tactic.FinCases
import Troupe.Expr.Parser
import Troupe.Proofs.Except

/-!
# The grammar of expressions is what is read

The grammar, written down without the parser: six rules for chains of operands, which binary
operators join, over unary operators and over values, paths and parentheses (`Derives`).  What
tree a chain stands for is a parameter of a derivation: any bracketing of it (`Brackets`), or the
one in which each operator takes all that is on its left (`Leftward`).

Reading is sound, as each reader uses up tokens that derive from its phrase, and it is complete: a
reader of a phrase stops exactly behind a derivation if what follows cannot go on with it.

## Main results

* `Sound.binaryLevels`: what is read derives from the grammar;
* `Derives.reads`: what derives from the grammar is read;
* `reads_grammar`: both, and that the tree is the only one that associates to the left.
-/

namespace Troupe.Expr

/-! ## The grammar -/

/-- What a row of tokens can be, the loosest first. -/
inductive Phrase where
  | disjunction
  | conjunction
  | equality
  | comparison
  | sum
  | product
  | unary
  | primary

namespace Phrase

/-- The rule of a phrase that is a chain: what its operands are, and which operators join them.
So `disjunction := conjunction ('||' conjunction)*`, and so on down to `product`. -/
def chain? : Phrase → Option (Phrase × List (Symbol × Operator))
  | .disjunction => some (.conjunction, [(.or, .or)])
  | .conjunction => some (.equality, [(.and, .and)])
  | .equality => some (.comparison, [(.equal, .equal), (.notEqual, .notEqual)])
  | .comparison => some (.sum, [(.less, .less), (.lessEqual, .lessEqual), (.greater, .greater),
      (.greaterEqual, .greaterEqual)])
  | .sum => some (.product, [(.plus, .add), (.minus, .subtract)])
  | .product => some (.unary, [(.times, .multiply), (.slash, .divide), (.percent, .remainder)])
  | .unary | .primary => none

end Phrase

/-- Which trees a chain may stand for: its first operand, the others with the operators before
them, and a tree. -/
abbrev Grouping := Expr → List (Operator × Expr) → Expr → Prop

/-- The trees that a chain has if it may be bracketed in any way. -/
inductive Brackets : Grouping where
  /-- One operand. -/
  | operand (expr : Expr) : Brackets expr [] expr
  /-- Two chains that an operator joins. -/
  | join {first next left right : Expr} {operator : Operator} {before after : List (Operator × Expr)}
      (head : Brackets first before left) (tail : Brackets next after right) :
      Brackets first (before ++ (operator, next) :: after) (.binary operator left right)

/-- The tree of a chain that associates to the left: each operator takes all that is on its
left. -/
def leftward (first : Expr) (steps : List (Operator × Expr)) : Expr :=
  steps.foldl (fun left step => .binary step.1 left step.2) first

/-- A chain stands for the tree that associates to the left. -/
def Leftward : Grouping := fun first steps expr => expr = leftward first steps

mutual

/-- A row of tokens derives from a phrase, and this is a tree of the derivation. -/
inductive Derives (groups : Grouping) : Phrase → List Token → Expr → Prop where
  /-- A chain of operands. -/
  | chain {phrase operand : Phrase} {operators : List (Symbol × Operator)}
      {first rest : List Token} {left expr : Expr} {steps : List (Operator × Expr)}
      (rule : phrase.chain? = some (operand, operators)) (head : Derives groups operand first left)
      (tail : Joins groups operand operators rest steps) (group : groups left steps expr) :
      Derives groups phrase (first ++ rest) expr
  /-- `unary := '!' unary`. -/
  | not {tokens : List Token} {operand : Expr} (inner : Derives groups .unary tokens operand) :
      Derives groups .unary (.symbol .bang :: tokens) (.not operand)
  /-- `unary := '-' unary`. -/
  | negate {tokens : List Token} {operand : Expr} (inner : Derives groups .unary tokens operand) :
      Derives groups .unary (.symbol .minus :: tokens) (.negate operand)
  /-- `unary := primary`. -/
  | primary {tokens : List Token} {expr : Expr} (inner : Derives groups .primary tokens expr) :
      Derives groups .unary tokens expr
  /-- A numeral. -/
  | number (value : Number) : Derives groups .primary [.number value] (.literal (.num value))
  /-- A text in quotes. -/
  | text (content : String) : Derives groups .primary [.text content] (.literal (.str content))
  /-- A word that stands for a value. -/
  | literal (value : Json) : Derives groups .primary [.literal value] (.literal value)
  /-- A path. -/
  | path (segments : List Segment) : Derives groups .primary [.path segments] (.path segments)
  /-- `primary := '(' disjunction ')'`. -/
  | group {tokens : List Token} {expr : Expr} (inner : Derives groups .disjunction tokens expr) :
      Derives groups .primary (.opening :: (tokens ++ [.closing])) expr

/-- A row of tokens is any number of operators, each with an operand behind it. -/
inductive Joins (groups : Grouping) :
    Phrase → List (Symbol × Operator) → List Token → List (Operator × Expr) → Prop where
  /-- None. -/
  | nil (operand : Phrase) (operators : List (Symbol × Operator)) :
      Joins groups operand operators [] []
  /-- One, and then others. -/
  | cons {operand : Phrase} {operators : List (Symbol × Operator)} {symbol : Symbol}
      {operator : Operator} {tokens rest : List Token} {right : Expr}
      {steps : List (Operator × Expr)} (mem : (symbol, operator) ∈ operators)
      (head : Derives groups operand tokens right)
      (tail : Joins groups operand operators rest steps) :
      Joins groups operand operators (.symbol symbol :: (tokens ++ rest))
        ((operator, right) :: steps)

end

/-! ## Groupings -/

@[simp] lemma leftward_nil (first : Expr) : leftward first [] = first := rfl

@[simp] lemma leftward_cons (first right : Expr) (operator : Operator)
    (steps : List (Operator × Expr)) :
    leftward first ((operator, right) :: steps) = leftward (.binary operator first right) steps :=
  rfl

/-- The tree that associates to the left is a bracketing. -/
lemma brackets_leftward (first : Expr) (steps : List (Operator × Expr)) :
    Brackets first steps (leftward first steps) := by
  induction steps using List.reverseRecOn with
  | nil => exact .operand first
  | append_singleton before step ih =>
    have last : leftward first (before ++ [step]) =
        .binary step.1 (leftward first before) step.2 := by
      simp [leftward]
    rw [last]
    exact .join ih (.operand step.2)

mutual

/-- A derivation under one grouping is one under a wider grouping. -/
lemma Derives.mono {narrow wide : Grouping} (wider : ∀ first steps expr, narrow first steps expr →
    wide first steps expr) {phrase : Phrase} {tokens : List Token} {expr : Expr} :
    Derives narrow phrase tokens expr → Derives wide phrase tokens expr
  | .chain rule head tail group =>
    .chain rule (head.mono wider) (tail.mono wider) (wider _ _ _ group)
  | .not inner => .not (inner.mono wider)
  | .negate inner => .negate (inner.mono wider)
  | .primary inner => .primary (inner.mono wider)
  | .number value => .number value
  | .text content => .text content
  | .literal value => .literal value
  | .path segments => .path segments
  | .group inner => .group (inner.mono wider)

lemma Joins.mono {narrow wide : Grouping} (wider : ∀ first steps expr, narrow first steps expr →
    wide first steps expr) {operand : Phrase} {operators : List (Symbol × Operator)}
    {tokens : List Token} {steps : List (Operator × Expr)} :
    Joins narrow operand operators tokens steps → Joins wide operand operators tokens steps
  | .nil operand operators => .nil operand operators
  | .cons mem head tail => .cons mem (head.mono wider) (tail.mono wider)

end

mutual

/-- What derives from a phrase under some grouping also has a tree that associates to the left. -/
lemma Derives.leftward {groups : Grouping} {phrase : Phrase} {tokens : List Token} {expr : Expr} :
    Derives groups phrase tokens expr → ∃ tree, Derives Leftward phrase tokens tree
  | .chain rule head tail _ => by
    obtain ⟨left, head⟩ := head.leftward
    obtain ⟨steps, tail⟩ := tail.leftward
    exact ⟨Expr.leftward left steps, .chain rule head tail rfl⟩
  | .not inner => by
    obtain ⟨operand, inner⟩ := inner.leftward
    exact ⟨_, .not inner⟩
  | .negate inner => by
    obtain ⟨operand, inner⟩ := inner.leftward
    exact ⟨_, .negate inner⟩
  | .primary inner => by
    obtain ⟨tree, inner⟩ := inner.leftward
    exact ⟨tree, .primary inner⟩
  | .number value => ⟨_, .number value⟩
  | .text content => ⟨_, .text content⟩
  | .literal value => ⟨_, .literal value⟩
  | .path segments => ⟨_, .path segments⟩
  | .group inner => by
    obtain ⟨tree, inner⟩ := inner.leftward
    exact ⟨tree, .group inner⟩

lemma Joins.leftward {groups : Grouping} {operand : Phrase} {operators : List (Symbol × Operator)}
    {tokens : List Token} {steps : List (Operator × Expr)} :
    Joins groups operand operators tokens steps →
      ∃ others, Joins Leftward operand operators tokens others
  | .nil operand operators => ⟨[], .nil operand operators⟩
  | .cons mem head tail => by
    obtain ⟨right, head⟩ := head.leftward
    obtain ⟨others, tail⟩ := tail.leftward
    exact ⟨_, .cons mem head tail⟩

end

/-! ## Readers of phrases -/

namespace Phrase

/-- How many levels of binary operators are looser than a phrase. -/
def rank : Phrase → Nat
  | .disjunction => 0
  | .conjunction => 1
  | .equality => 2
  | .comparison => 3
  | .sum => 4
  | .product => 5
  | .unary | .primary => 6

/-- The reader of a phrase, over a reader of operands. -/
def reader (operand : Reader) (phrase : Phrase) : Reader :=
  (levels.drop phrase.rank).foldr binaryLevel operand

@[simp] lemma reader_disjunction (operand : Reader) :
    Phrase.disjunction.reader operand = binaryLevels operand := rfl

@[simp] lemma reader_unary (operand : Reader) : Phrase.unary.reader operand = operand := rfl

@[simp] lemma reader_primary (operand : Reader) : Phrase.primary.reader operand = operand := rfl

/-- The levels of a chain are its own and those of its operands. -/
lemma levels_drop {phrase operand : Phrase} {operators : List (Symbol × Operator)}
    (rule : phrase.chain? = some (operand, operators)) :
    levels.drop phrase.rank = operators :: levels.drop operand.rank := by
  cases phrase <;> cases rule <;> rfl

lemma reader_of_chain {phrase next : Phrase} {operators : List (Symbol × Operator)}
    (rule : phrase.chain? = some (next, operators)) (operand : Reader) :
    phrase.reader operand = binaryLevel operators (next.reader operand) := by
  rw [reader, levels_drop rule]
  rfl

/-- What follows a phrase cannot go on with it: no binary operator of the phrase or of a tighter
one comes next. -/
def Stops (phrase : Phrase) (rest : List Token) : Prop :=
  ∀ level ∈ levels.drop phrase.rank, operatorAt? level rest = none

lemma stops_nil (phrase : Phrase) : phrase.Stops [] := fun _ _ => rfl

lemma stops_closing (phrase : Phrase) (rest : List Token) : phrase.Stops (.closing :: rest) :=
  fun _ _ => rfl

/-- What cannot go on with a chain cannot go on with its last operand. -/
lemma Stops.operand {phrase operand : Phrase} {operators : List (Symbol × Operator)}
    {rest : List Token} (stops : phrase.Stops rest)
    (rule : phrase.chain? = some (operand, operators)) : operand.Stops rest := by
  intro level mem
  refine stops level ?_
  rw [levels_drop rule]
  exact List.mem_cons_of_mem _ mem

lemma Stops.own {phrase operand : Phrase} {operators : List (Symbol × Operator)}
    {rest : List Token} (stops : phrase.Stops rest)
    (rule : phrase.chain? = some (operand, operators)) : operatorAt? operators rest = none := by
  refine stops operators ?_
  rw [levels_drop rule]
  exact List.mem_cons_self

/-- No two operators of a level have the same symbol. -/
lemma operatorAt?_of_mem {phrase operand : Phrase} {operators : List (Symbol × Operator)}
    (rule : phrase.chain? = some (operand, operators)) {symbol : Symbol} {operator : Operator}
    (mem : (symbol, operator) ∈ operators) (rest : List Token) :
    operatorAt? operators (.symbol symbol :: rest) = some (operator, rest) := by
  cases phrase <;> cases rule <;> fin_cases mem <;> rfl

/-- The operators of a chain are none of its operands. -/
lemma stops_of_mem {phrase operand : Phrase} {operators : List (Symbol × Operator)}
    (rule : phrase.chain? = some (operand, operators)) {symbol : Symbol} {operator : Operator}
    (mem : (symbol, operator) ∈ operators) (rest : List Token) :
    operand.Stops (.symbol symbol :: rest) := by
  intro level tighter
  cases phrase <;> cases rule <;> fin_cases mem <;> fin_cases tighter <;> rfl

end Phrase

/-- An operator that is found is one of the level, and its symbol comes first. -/
lemma of_operatorAt? {level : Level} {tokens rest : List Token} {operator : Operator}
    (found : operatorAt? level tokens = some (operator, rest)) :
    ∃ symbol, tokens = .symbol symbol :: rest ∧ (symbol, operator) ∈ level := by
  unfold operatorAt? at found
  split at found
  · rename_i symbol _
    obtain ⟨entry, first, same⟩ := Option.map_eq_some_iff.1 found
    cases same
    have matched : entry.1 = symbol := by simpa using List.find?_some first
    exact ⟨symbol, rfl, matched ▸ List.mem_of_find?_eq_some first⟩
  · cases found

/-! ## What is read derives from the grammar -/

/-- What a reader uses up derives from a phrase. -/
def Sound (reader : Reader) (phrase : Phrase) : Prop :=
  ∀ tokens expr rest, reader tokens = .ok (expr, rest) →
    ∃ used, tokens = used ++ rest ∧ Derives Leftward phrase used expr

section Sound

variable {phrase operand : Phrase} {operators : List (Symbol × Operator)} {next : Reader}

/-- What is read behind a first operand are operators with operands. -/
lemma Sound.operands (sound : Sound next operand) (rounds : Nat) {left expr : Expr}
    {tokens rest : List Token}
    (read : readOperands operators next rounds left tokens = .ok (expr, rest)) :
    ∃ used steps, tokens = used ++ rest ∧ Joins Leftward operand operators used steps ∧
      expr = leftward left steps := by
  induction rounds generalizing left tokens with
  | zero =>
    cases read
    exact ⟨[], [], rfl, .nil _ _, rfl⟩
  | succ rounds ih =>
    rw [readOperands] at read
    split at read
    · cases read
      exact ⟨[], [], rfl, .nil _ _, rfl⟩
    · rename_i operator behind found
      obtain ⟨symbol, rfl, mem⟩ := of_operatorAt? found
      obtain ⟨⟨right, others⟩, first, goesOn⟩ := bind_eq_ok.1 read
      obtain ⟨taken, rfl, head⟩ := sound _ _ _ first
      obtain ⟨used, steps, rfl, tail, rfl⟩ := ih goesOn
      exact ⟨.symbol symbol :: (taken ++ used), (operator, right) :: steps, by simp,
        .cons mem head tail, rfl⟩

/-- A level over a sound reader of its operands is sound. -/
lemma Sound.level (sound : Sound next operand) (phrase : Phrase)
    (rule : phrase.chain? = some (operand, operators)) :
    Sound (binaryLevel operators next) phrase := by
  intro tokens expr rest read
  obtain ⟨⟨left, others⟩, first, goesOn⟩ := bind_eq_ok.1 read
  obtain ⟨taken, rfl, head⟩ := sound _ _ _ first
  obtain ⟨used, steps, rfl, tail, same⟩ := sound.operands _ goesOn
  exact ⟨taken ++ used, by simp, .chain rule head tail same⟩

/-- **All levels over a sound reader of operands are sound.** -/
theorem Sound.binaryLevels (sound : Sound next .unary) : Sound (binaryLevels next) .disjunction := by
  have product := sound.level .product rfl
  have sum := product.level .sum rfl
  have comparison := sum.level .comparison rfl
  have equality := comparison.level .equality rfl
  have conjunction := equality.level .conjunction rfl
  exact conjunction.level .disjunction rfl

/-- What is read as an operand derives from `unary`. -/
lemma sound_readOperand (fuel : Nat) : Sound (readOperand fuel) .unary := by
  induction fuel with
  | zero =>
    intro tokens expr rest read
    cases read
  | succ fuel ih =>
    intro tokens expr rest read
    unfold readOperand at read
    split at read
    · cases read
    · obtain ⟨⟨operand, others⟩, inner, done⟩ := bind_eq_ok.1 read
      cases done
      obtain ⟨used, rfl, derives⟩ := ih _ _ _ inner
      exact ⟨.symbol .bang :: used, rfl, .not derives⟩
    · obtain ⟨⟨operand, others⟩, inner, done⟩ := bind_eq_ok.1 read
      cases done
      obtain ⟨used, rfl, derives⟩ := ih _ _ _ inner
      exact ⟨.symbol .minus :: used, rfl, .negate derives⟩
    · cases read
      exact ⟨[_], rfl, .primary (.number _)⟩
    · cases read
      exact ⟨[_], rfl, .primary (.text _)⟩
    · cases read
      exact ⟨[_], rfl, .primary (.literal _)⟩
    · cases read
      exact ⟨[_], rfl, .primary (.path _)⟩
    · obtain ⟨⟨inside, others⟩, inner, done⟩ := bind_eq_ok.1 read
      obtain ⟨used, rfl, derives⟩ := ih.binaryLevels _ _ _ inner
      dsimp only at done
      split at done
      · cases done
        exact ⟨.opening :: (used ++ [.closing]), by simp, .primary (.group derives)⟩
      · cases done
    · cases read

end Sound

/-! ## What derives from the grammar is read -/

section Complete

variable {phrase operand : Phrase} {operators : List (Symbol × Operator)}

/-- Each step of a chain has a token of its own. -/
lemma Joins.length_le {groups : Grouping} {operand : Phrase}
    {operators : List (Symbol × Operator)} {tokens : List Token} {steps : List (Operator × Expr)} :
    Joins groups operand operators tokens steps → steps.length ≤ tokens.length
  | .nil _ _ => Nat.le_refl _
  | .cons _ _ tail => by
    have := tail.length_le
    simp only [List.length_cons, List.length_append]
    omega

/-- What follows an operand of a chain cannot go on with it. -/
lemma Joins.stops {groups : Grouping} {tokens rest : List Token} {steps : List (Operator × Expr)}
    (joins : Joins groups operand operators tokens steps)
    (rule : phrase.chain? = some (operand, operators)) (stops : phrase.Stops rest) :
    operand.Stops (tokens ++ rest) := by
  cases joins with
  | nil => exact stops.operand rule
  | cons mem head tail => exact Phrase.stops_of_mem rule mem _

mutual

/-- **What derives from a phrase is read**, if there is fuel for its tokens and what follows cannot
go on with the phrase. -/
theorem Derives.reads {phrase : Phrase} {tokens : List Token} {expr : Expr} :
    Derives Leftward phrase tokens expr → ∀ (fuel : Nat) (rest : List Token),
      tokens.length ≤ fuel → phrase.Stops rest →
      phrase.reader (readOperand fuel) (tokens ++ rest) = .ok (expr, rest)
  | @Derives.chain _ _ operand operators first others left _ steps rule head tail same => by
    intro fuel rest enough stops
    rw [List.length_append] at enough
    have begun := head.reads fuel (others ++ rest) (by omega) (tail.stops rule stops)
    have rounds : steps.length ≤ (others ++ rest).length := by
      have := tail.length_le
      rw [List.length_append]
      omega
    have goesOn := tail.reads rule fuel (others ++ rest).length left rest (by omega) rounds stops
    rw [Phrase.reader_of_chain rule, binaryLevel, List.append_assoc, begun, ok_bind_eq, same]
    exact goesOn
  | .not inner => by
    intro fuel rest enough stops
    cases fuel with
    | zero => simp at enough
    | succ fuel =>
      have read := inner.reads fuel rest (by simpa using enough) stops
      rw [Phrase.reader_unary] at read ⊢
      rw [List.cons_append, readOperand, read]
      rfl
  | .negate inner => by
    intro fuel rest enough stops
    cases fuel with
    | zero => simp at enough
    | succ fuel =>
      have read := inner.reads fuel rest (by simpa using enough) stops
      rw [Phrase.reader_unary] at read ⊢
      rw [List.cons_append, readOperand, read]
      rfl
  | .primary inner => fun fuel rest enough stops => inner.reads fuel rest enough stops
  | .number _ | .text _ | .literal _ | .path _ => by
    intro fuel rest enough _
    cases fuel with
    | zero => simp at enough
    | succ fuel => rfl
  | .group inner => by
    intro fuel rest enough stops
    cases fuel with
    | zero => simp at enough
    | succ fuel =>
      rw [List.length_cons, List.length_append, List.length_singleton] at enough
      have read := inner.reads fuel (.closing :: rest) (by omega) (Phrase.stops_closing _ _)
      rw [Phrase.reader_disjunction] at read
      rw [Phrase.reader_primary, List.cons_append, List.append_assoc, List.singleton_append,
        readOperand, read]
      rfl

/-- Operators with operands are read behind what is on their left. -/
theorem Joins.reads {phrase operand : Phrase} {operators : List (Symbol × Operator)}
    {tokens : List Token} {steps : List (Operator × Expr)} :
    Joins Leftward operand operators tokens steps →
      phrase.chain? = some (operand, operators) →
      ∀ (fuel rounds : Nat) (left : Expr) (rest : List Token),
        tokens.length ≤ fuel → steps.length ≤ rounds → phrase.Stops rest →
        readOperands operators (operand.reader (readOperand fuel)) rounds left (tokens ++ rest) =
          .ok (leftward left steps, rest)
  | .nil _ _ => by
    intro rule fuel rounds left rest _ _ stops
    cases rounds with
    | zero => rfl
    | succ rounds =>
      rw [List.nil_append, readOperands, stops.own rule]
      rfl
  | @Joins.cons _ _ _ symbol operator first others right steps mem head tail => by
    intro rule fuel rounds left rest enough more stops
    rw [List.length_cons, List.length_append] at enough
    cases rounds with
    | zero => simp at more
    | succ rounds =>
      have next := head.reads fuel (others ++ rest) (by omega) (tail.stops rule stops)
      have goesOn := tail.reads rule fuel rounds (.binary operator left right) rest (by omega)
        (by simpa using more) stops
      rw [List.cons_append, readOperands, Phrase.operatorAt?_of_mem rule mem, List.append_assoc]
      dsimp only
      rw [next, ok_bind_eq]
      exact goesOn

end

end Complete

/-! ## Whole expressions -/

/-- A row of tokens is read as the tree that it derives with. -/
lemma ofTokens_eq_ok {tokens : List Token} {expr : Expr} :
    ofTokens tokens = .ok expr ↔ Derives Leftward .disjunction tokens expr := by
  constructor
  · intro read
    obtain ⟨⟨tree, rest⟩, first, done⟩ := bind_eq_ok.1 read
    obtain ⟨used, rfl, derives⟩ := (sound_readOperand _).binaryLevels _ _ _ first
    cases rest with
    | nil =>
      cases done
      rwa [List.append_nil]
    | cons token others => cases done
  · intro derives
    have read := derives.reads tokens.length [] (Nat.le_refl _) (Phrase.stops_nil _)
    rw [List.append_nil, Phrase.reader_disjunction] at read
    rw [ofTokens, read]
    rfl

/-- **Exactly the grammar is read.**  Reading a row of tokens succeeds if and only if the tokens
derive from the grammar, however chains may be bracketed.  The tree that is returned is then the one
in which every chain associates to the left, and there is no other such tree. -/
theorem reads_grammar (tokens : List Token) :
    ((∃ expr, ofTokens tokens = .ok expr) ↔ ∃ expr, Derives Brackets .disjunction tokens expr) ∧
      ∀ expr, ofTokens tokens = .ok expr →
        Derives Leftward .disjunction tokens expr ∧
          ∀ other, Derives Leftward .disjunction tokens other → other = expr := by
  refine ⟨⟨?_, ?_⟩, ?_⟩
  · rintro ⟨expr, read⟩
    refine ⟨expr, (ofTokens_eq_ok.1 read).mono ?_⟩
    rintro first steps tree rfl
    exact brackets_leftward first steps
  · rintro ⟨expr, derives⟩
    obtain ⟨tree, left⟩ := derives.leftward
    exact ⟨tree, ofTokens_eq_ok.2 left⟩
  · intro expr read
    refine ⟨ofTokens_eq_ok.1 read, ?_⟩
    intro other derives
    have same := (ofTokens_eq_ok.2 derives).symm.trans read
    exact Except.ok.inj same

/-- A path of one name. -/
def Sample.name (name : String) : Token := .path [.key name]

/-- `a - b - c * d` is the difference between `a - b` and `c * d`; it is not what `b` and `c * d`
leave of `a`. -/
theorem reads_differences :
    ∃ tree, ofTokens [Sample.name "a", .symbol .minus, Sample.name "b", .symbol .minus,
        Sample.name "c", .symbol .times, Sample.name "d"] = .ok tree ∧
      tree = .binary .subtract (.binary .subtract (.path [.key "a"]) (.path [.key "b"]))
        (.binary .multiply (.path [.key "c"]) (.path [.key "d"])) ∧
      ¬ Derives Leftward .disjunction [Sample.name "a", .symbol .minus, Sample.name "b",
          .symbol .minus, Sample.name "c", .symbol .times, Sample.name "d"]
        (.binary .subtract (.path [.key "a"]) (.binary .subtract (.path [.key "b"])
          (.binary .multiply (.path [.key "c"]) (.path [.key "d"])))) := by
  refine ⟨_, rfl, rfl, ?_⟩
  intro rightward
  have same := ((reads_grammar _).2 _ rfl).2 _ rightward
  cases same

end Troupe.Expr
