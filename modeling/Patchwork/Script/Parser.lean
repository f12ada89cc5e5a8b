import Patchwork.Script.Word

/-!
Reading scripts. Each reader takes words off the front or fails; the fuel bounds the nesting and the
number of parts.
-/

namespace Patchwork.Script

/-- What is read: the words left, and the class that the reader is in, if any. -/
structure Reading where
  words : List Word
  owner : Option String

abbrev Reader := StateT Reading Option

/-- A name as the body of a class has it: one with two leading underscores, and without two at its end, is private
to the class. -/
def privateName (owner : Option String) (name : String) : String :=
  let cs := name.toList
  match owner.map fun o => o.toList.dropWhile (· == '_') with
  | some (c :: r) =>
    if Text.startsWith ['_', '_'] cs && !Text.endsWith ['_', '_'] cs && !cs.contains '.' then
      "_" ++ String.ofList (c :: r) ++ name
    else name
  | _ => name

namespace Reader

def refuse {α : Type} : Reader α := fun _ => none

def peek : Reader Word := do
  match (← get).words with
  | w :: _ => pure w
  | [] => refuse

/-- The word behind the next one. -/
def peekSecond : Reader Word := do
  match (← get).words with
  | _ :: w :: _ => pure w
  | _ => refuse

def advance : Reader Unit :=
  modify fun s => { s with words := s.words.drop 1 }

/-- Whether the next word is the given sign or keyword. -/
def at? (text : String) : Reader Bool := do
  let w ← peek
  pure ((w.kind = .sign || w.kind = .keyword) && w.text == text)

def accept (text : String) : Reader Bool := do
  if ← at? text then
    advance
    pure true
  else pure false

def expect (text : String) : Reader Unit := do
  if !(← accept text) then refuse

def ofKind (kind : WordKind) : Reader Word := do
  let w ← peek
  if w.kind = kind then
    advance
    pure w
  else refuse

/-- A name as it is shown. -/
def shownName : Reader String := do
  pure (← ofKind .name).text

/-- A name as the class around has it. -/
def owned (name : String) : Reader String := do
  pure (privateName (← get).owner name)

def name : Reader String := do
  owned (← shownName)

/-- Whether a name comes next, and the given sign behind it. -/
def nameBefore? (sign : String) : Reader Bool := do
  let a ← peek
  if a.kind = .name then
    let b ← peekSecond
    pure (b.kind = .sign && b.text == sign)
  else pure false

/-- Reads the body of a class. -/
def inClass {α : Type} (owner : String) (r : Reader α) : Reader α := do
  let outer := (← get).owner
  modify fun s => { s with owner := some owner }
  let v ← r
  modify fun s => { s with owner := outer }
  pure v

end Reader

open Reader

/-- What may be assigned to. -/
def isTarget : Expr → Bool
  | .name _ | .attr _ _ | .index _ _ => true
  | _ => false

mutual

/-- What may stand on the left of a plain assignment. -/
def isPattern : Expr → Bool
  | .starred e => isPattern e
  | .tuple items => arePatterns items
  | .list items => arePatterns items
  | .name _ | .attr _ _ | .index _ _ => true
  | _ => false

def arePatterns : List Expr → Bool
  | [] => true
  | e :: rest => isPattern e && arePatterns rest

end

def isStarred : Expr → Bool
  | .starred _ => true
  | _ => false

/-- An assignment takes at most one spread target in each list, and none on its own. -/
def isAssignable (e : Expr) : Bool :=
  isPattern e && !isStarred e &&
    match e with
    | .tuple items | .list items => (items.filter isStarred).length ≤ 1
    | _ => true

mutual

/-- What may be deleted. -/
def isDeletable : Expr → Bool
  | .tuple items => areDeletable items
  | .list items => areDeletable items
  | .name _ | .attr _ _ | .index _ _ => true
  | _ => false

def areDeletable : List Expr → Bool
  | [] => true
  | e :: rest => isDeletable e && areDeletable rest

end

/-- The operators of one precedence level. -/
def binaryLevel (level : Nat) : List (String × BinaryOp) :=
  match level with
  | 0 => [("|", .bitOr)]
  | 1 => [("^", .bitXor)]
  | 2 => [("&", .bitAnd)]
  | 3 => [("<<", .shiftLeft), (">>", .shiftRight)]
  | 4 => [("+", .add), ("-", .subtract)]
  | 5 => [("*", .multiply), ("/", .divide), ("//", .floorDivide), ("%", .modulo), ("@", .matrix)]
  | _ => []

def augmentOp? (text : String) : Option BinaryOp :=
  match text with
  | "+=" => some .add
  | "-=" => some .subtract
  | "*=" => some .multiply
  | "@=" => some .matrix
  | "/=" => some .divide
  | "//=" => some .floorDivide
  | "%=" => some .modulo
  | "**=" => some .power
  | "<<=" => some .shiftLeft
  | ">>=" => some .shiftRight
  | "&=" => some .bitAnd
  | "|=" => some .bitOr
  | "^=" => some .bitXor
  | _ => none

/-- The comparison that starts at the next words. -/
def comparison? : Reader (Option Comparison) := do
  let w ← peek
  if w.kind = .sign then
    let found : Option Comparison := match w.text with
      | "==" => some .equal
      | "!=" => some .unequal
      | "<" => some .less
      | "<=" => some .atMost
      | ">" => some .greater
      | ">=" => some .atLeast
      | _ => none
    if found.isSome then advance
    pure found
  else if ← accept "in" then pure (some .member)
  else if ← at? "not" then
    advance
    expect "in"
    pure (some .absent)
  else if ← accept "is" then
    if ← accept "not" then pure (some .distinct) else pure (some .identical)
  else pure none

/-- Adjacent text literals join; text and bytes do not. -/
def joinText? (a b : Expr) : Option Expr :=
  match a, b with
  | .str s, .str t => some (.str (s ++ t))
  | .bytes s, .bytes t => some (.bytes (s ++ t))
  | _, _ => none

def isText : Expr → Bool
  | .str _ | .bytes _ => true
  | _ => false

/-- The text literals that follow `first`. -/
def joinedText : Nat → Expr → Reader Expr
  | 0, _ => refuse
  | fuel + 1, first => do
    let w ← peek
    if w.kind = .literal && isText w.literal then
      advance
      match joinText? first w.literal with
      | some e => joinedText fuel e
      | none => refuse
    else pure first

/-- Ends a list of items at a closing sign or behind a comma before it. -/
def closes (text : String) : Reader Bool := at? text

/-- What ends an expression list without brackets. -/
def endsList : Reader Bool := do
  let w ← peek
  if w.kind = .newline || w.kind = .finish then pure true
  else
    pure ((w.kind = .sign || w.kind = .keyword) &&
      ([")", "]", "\x7d", "=", ":", ";", "in"].contains w.text || (augmentOp? w.text).isSome))

/-- Parameters that are read so far. -/
structure ParamList where
  params : Params
  defaults : List (String × Expr)
  star : Bool
  slash : Bool

def ParamList.empty : ParamList := ⟨⟨[], 0, none, [], none⟩, [], false, false⟩

mutual

/-- An expression in which a name may be bound. -/
def bindingExpr : Nat → Reader Expr
  | 0 => refuse
  | fuel + 1 => do
    if ← nameBefore? ":=" then
      let n ← name
      advance
      pure (.bind n (← expression fuel))
    else expression fuel

/-- An expression. -/
def expression : Nat → Reader Expr
  | 0 => refuse
  | fuel + 1 => do
    if ← at? "lambda" then lambdaExpr fuel
    else
      let e ← disjunction fuel
      if ← accept "if" then
        let test ← disjunction fuel
        expect "else"
        pure (.choose test e (← expression fuel))
      else pure e

def lambdaExpr : Nat → Reader Expr
  | 0 => refuse
  | fuel + 1 => do
    let row := (← peek).row
    advance
    let ps ← parameters fuel false ":" .empty
    expect ":"
    pure (.lambda ps.params ps.defaults (← expression fuel) row)

def disjunction : Nat → Reader Expr
  | 0 => refuse
  | fuel + 1 => do
    let a ← conjunction fuel
    if ← accept "or" then pure (.either a (← disjunction fuel)) else pure a

def conjunction : Nat → Reader Expr
  | 0 => refuse
  | fuel + 1 => do
    let a ← inversion fuel
    if ← accept "and" then pure (.both a (← conjunction fuel)) else pure a

def inversion : Nat → Reader Expr
  | 0 => refuse
  | fuel + 1 => do
    if ← accept "not" then pure (.unary .not (← inversion fuel))
    else
      let a ← operand fuel 0
      let rest ← comparisons fuel
      pure (if rest.isEmpty then a else .compare a rest)

def comparisons : Nat → Reader (List (Comparison × Expr))
  | 0 => refuse
  | fuel + 1 => do
    match ← comparison? with
    | some op =>
      let e ← operand fuel 0
      pure ((op, e) :: (← comparisons fuel))
    | none => pure []

/-- An operand of the operators of one precedence level or a higher one. -/
def operand : Nat → Nat → Reader Expr
  | 0, _ => refuse
  | fuel + 1, level => do
    if 6 ≤ level then factor fuel
    else
      let a ← operand fuel (level + 1)
      operandTail fuel level a

def operandTail : Nat → Nat → Expr → Reader Expr
  | 0, _, _ => refuse
  | fuel + 1, level, a => do
    let w ← peek
    match if w.kind = .sign then (binaryLevel level).find? (·.1 == w.text) else none with
    | some (_, op) =>
      advance
      let b ← operand fuel (level + 1)
      operandTail fuel level (.binary op a b)
    | none => pure a

def factor : Nat → Reader Expr
  | 0 => refuse
  | fuel + 1 => do
    if ← accept "+" then pure (.unary .plus (← factor fuel))
    else if ← accept "-" then pure (.unary .minus (← factor fuel))
    else if ← accept "~" then pure (.unary .invert (← factor fuel))
    else
      let base ← atom fuel
      let e ← trailers fuel base
      if ← accept "**" then pure (.binary .power e (← factor fuel)) else pure e

/-- Calls, subscripts and attributes behind an expression. -/
def trailers : Nat → Expr → Reader Expr
  | 0, _ => refuse
  | fuel + 1, e => do
    if ← accept "." then trailers fuel (.attr e (← name))
    else if ← accept "(" then
      let args ← arguments fuel
      expect ")"
      trailers fuel (.call e args)
    else if ← accept "[" then
      let key ← subscript fuel
      expect "]"
      trailers fuel (.index e key)
    else pure e

/-- The arguments of a call up to the closing bracket. -/
def arguments : Nat → Reader (List (ArgKind × Expr))
  | 0 => refuse
  | fuel + 1 => do
    if ← closes ")" then pure []
    else
      let arg ← argument fuel
      if ← accept "," then pure (arg :: (← arguments fuel))
      else if ← closes ")" then pure [arg]
      else if arg.1 = .positional then
        -- a comprehension may stand alone
        let clauses ← clauses fuel
        if clauses.isEmpty then refuse
        if ← closes ")" then pure [(.positional, .build .lazily arg.2 none clauses)] else refuse
      else refuse

def argument : Nat → Reader (ArgKind × Expr)
  | 0 => refuse
  | fuel + 1 => do
    if ← accept "*" then pure (.spread, ← expression fuel)
    else if ← accept "**" then pure (.namedSpread, ← expression fuel)
    else if ← nameBefore? "=" then
      let n ← shownName
      advance
      pure (.named n, ← expression fuel)
    else pure (.positional, ← bindingExpr fuel)

/-- What stands between the brackets of a subscript. -/
def subscript : Nat → Reader Expr
  | 0 => refuse
  | fuel + 1 => do
    let first ← subscriptItem fuel
    if ← at? "," then
      let more ← subscriptItems fuel
      pure (.tuple (first :: more))
    else if isStarred first then pure (.tuple [first])
    else pure first

def subscriptItems : Nat → Reader (List Expr)
  | 0 => refuse
  | fuel + 1 => do
    if ← accept "," then
      if ← closes "]" then pure []
      else
        let e ← subscriptItem fuel
        pure (e :: (← subscriptItems fuel))
    else pure []

def subscriptItem : Nat → Reader Expr
  | 0 => refuse
  | fuel + 1 => do
    if ← accept "*" then pure (.starred (← operand fuel 0))
    else
      let start ← if ← at? ":" then pure none else pure (some (← bindingExpr fuel))
      if ← accept ":" then
        let stop ← if (← at? ":") || (← at? "]") || (← at? ",") then pure none
          else pure (some (← expression fuel))
        if ← accept ":" then
          let step ← if (← at? "]") || (← at? ",") then pure none else pure (some (← expression fuel))
          pure (.slice start stop step)
        else pure (.slice start stop none)
      else
        match start with
        | some e => pure e
        | none => refuse

/-- An item of a display: a spread or an expression. -/
def item : Nat → Reader Expr
  | 0 => refuse
  | fuel + 1 => do
    if ← accept "*" then pure (.starred (← operand fuel 0)) else bindingExpr fuel

/-- The items behind a comma up to a closing sign. -/
def itemsUpTo : Nat → String → Reader (List Expr)
  | 0, _ => refuse
  | fuel + 1, close => do
    if ← closes close then pure []
    else
      let e ← item fuel
      if ← accept "," then pure (e :: (← itemsUpTo fuel close))
      else if ← closes close then pure [e]
      else refuse

/-- The clauses of a comprehension. -/
def clauses : Nat → Reader (List (Expr × Expr × List Expr))
  | 0 => refuse
  | fuel + 1 => do
    if ← accept "for" then
      let target ← targetList fuel
      if !isAssignable target then refuse
      expect "in"
      let items ← disjunction fuel
      let tests ← conditions fuel
      pure ((target, items, tests) :: (← clauses fuel))
    else pure []

def conditions : Nat → Reader (List Expr)
  | 0 => refuse
  | fuel + 1 => do
    if ← accept "if" then
      let test ← disjunction fuel
      pure (test :: (← conditions fuel))
    else pure []

/-- The targets of a loop, with or without commas. -/
def targetList : Nat → Reader Expr
  | 0 => refuse
  | fuel + 1 => do
    let first ← target fuel
    if ← at? "," then
      let more ← moreTargets fuel
      pure (.tuple (first :: more))
    else pure first

def moreTargets : Nat → Reader (List Expr)
  | 0 => refuse
  | fuel + 1 => do
    if ← accept "," then
      if ← at? "in" then pure []
      else
        let e ← target fuel
        pure (e :: (← moreTargets fuel))
    else pure []

def target : Nat → Reader Expr
  | 0 => refuse
  | fuel + 1 => do
    if ← accept "*" then pure (.starred (← operand fuel 0)) else operand fuel 0

def atom : Nat → Reader Expr
  | 0 => refuse
  | fuel + 1 => do
    let w ← peek
    match w.kind with
    | .name => pure (.name (← name))
    | .literal =>
      advance
      if isText w.literal then joinedText fuel w.literal else pure w.literal
    | .keyword =>
      advance
      match w.text with
      | "None" => pure .none
      | "True" => pure (.bool true)
      | "False" => pure (.bool false)
      | _ => refuse
    | .sign =>
      advance
      match w.text with
      | "..." => pure .ellipsis
      | "(" => parenthesized fuel
      | "[" => listDisplay fuel
      | "\x7b" => braceDisplay fuel
      | _ => refuse
    | _ => refuse

def parenthesized : Nat → Reader Expr
  | 0 => refuse
  | fuel + 1 => do
    if ← accept ")" then pure (.tuple [])
    else
      let first ← item fuel
      if ← accept "," then
        let more ← itemsUpTo fuel ")"
        expect ")"
        pure (.tuple (first :: more))
      else if ← accept ")" then
        if isStarred first then refuse
        pure first
      else
        let clauses ← clauses fuel
        expect ")"
        if clauses.isEmpty || isStarred first then refuse
        pure (.build .lazily first none clauses)

def listDisplay : Nat → Reader Expr
  | 0 => refuse
  | fuel + 1 => do
    if ← accept "]" then pure (.list [])
    else
      let first ← item fuel
      if ← accept "," then
        let more ← itemsUpTo fuel "]"
        expect "]"
        pure (.list (first :: more))
      else if ← accept "]" then pure (.list [first])
      else
        let clauses ← clauses fuel
        expect "]"
        if clauses.isEmpty || isStarred first then refuse
        pure (.build .list first none clauses)

def braceDisplay : Nat → Reader Expr
  | 0 => refuse
  | fuel + 1 => do
    if ← accept "\x7d" then pure (.dict [])
    else if ← at? "**" then
      let entries ← dictEntries fuel
      expect "\x7d"
      pure (.dict entries)
    else
      let first ← item fuel
      if ← accept ":" then
        if isStarred first then refuse
        let value ← expression fuel
        if ← accept "," then
          let more ← dictEntries fuel
          expect "\x7d"
          pure (.dict ((some first, value) :: more))
        else if ← accept "\x7d" then pure (.dict [(some first, value)])
        else
          let clauses ← clauses fuel
          expect "\x7d"
          if clauses.isEmpty then refuse
          pure (.build .dict first (some value) clauses)
      else if ← accept "," then
        let more ← itemsUpTo fuel "\x7d"
        expect "\x7d"
        pure (.set (first :: more))
      else if ← accept "\x7d" then pure (.set [first])
      else
        let clauses ← clauses fuel
        expect "\x7d"
        if clauses.isEmpty || isStarred first then refuse
        pure (.build .set first none clauses)

def dictEntries : Nat → Reader (List (Option Expr × Expr))
  | 0 => refuse
  | fuel + 1 => do
    if ← closes "\x7d" then pure []
    else
      let entry ← if ← accept "**" then pure (none, ← operand fuel 0)
        else do
          let key ← expression fuel
          expect ":"
          pure (some key, ← expression fuel)
      if ← accept "," then pure (entry :: (← dictEntries fuel))
      else if ← closes "\x7d" then pure [entry]
      else refuse

/-- The parameters up to a closing sign; `annotated` allows annotations. -/
def parameters : Nat → Bool → String → ParamList → Reader ParamList
  | 0, _, _, _ => refuse
  | fuel + 1, annotated, close, ps => do
    if ← closes close then
      if ps.star && ps.params.rest.isNone && ps.params.namedOnly.isEmpty then refuse
      pure ps
    else if ps.params.namedRest.isSome then refuse
    else
      let ps ←
        if ← accept "*" then
          if ps.star then refuse
          if ← at? "," then pure { ps with star := true }
          else
            let n ← parameterName fuel annotated
            pure { ps with star := true, params := { ps.params with rest := some n } }
        else if ← accept "**" then
          if ps.star && ps.params.rest.isNone && ps.params.namedOnly.isEmpty then refuse
          let n ← parameterName fuel annotated
          pure { ps with params := { ps.params with namedRest := some n } }
        else if ← accept "/" then
          if ps.slash || ps.star || ps.params.plain.isEmpty then refuse
          pure { ps with slash := true, params := { ps.params with plainOnly := ps.params.plain.length } }
        else
          let n ← parameterName fuel annotated
          let value ← if ← accept "=" then pure (some (← expression fuel)) else pure none
          if ps.star then
            pure { ps with
              params := { ps.params with namedOnly := ps.params.namedOnly ++ [n] }
              defaults := ps.defaults ++ (value.map (n, ·)).toList }
          else
            if value.isNone && !ps.defaults.isEmpty then refuse
            pure { ps with
              params := { ps.params with plain := ps.params.plain ++ [n] }
              defaults := ps.defaults ++ (value.map (n, ·)).toList }
      if ← accept "," then parameters fuel annotated close ps
      else if ← closes close then parameters fuel annotated close ps
      else refuse

def parameterName : Nat → Bool → Reader String
  | 0, _ => refuse
  | fuel + 1, annotated => do
    let n ← name
    if annotated then
      if ← accept ":" then
        let _ ← expression fuel
    pure n

end

/-- Expressions with or without commas, at least one. -/
def expressionList (fuel : Nat) : Reader Expr := do
  let first ← starExpr fuel
  if ← at? "," then
    let more ← moreExpressions fuel
    pure (.tuple (first :: more))
  else pure first
where
  starExpr (fuel : Nat) : Reader Expr := do
    if ← accept "*" then pure (.starred (← operand fuel 0)) else expression fuel
  moreExpressions : Nat → Reader (List Expr)
    | 0 => refuse
    | fuel + 1 => do
      if ← accept "," then
        if ← endsList then pure []
        else
          let e ← starExpr fuel
          pure (e :: (← moreExpressions fuel))
      else pure []

/-- Names between commas. -/
def nameList : Nat → Reader (List String)
  | 0 => refuse
  | fuel + 1 => do
    let n ← name
    if ← accept "," then pure (n :: (← nameList fuel)) else pure [n]

/-- Names between points. -/
def dottedName : Nat → Reader String
  | 0 => refuse
  | fuel + 1 => do
    let n ← name
    if ← accept "." then pure (n ++ "." ++ (← dottedName fuel)) else pure n

def importedAs : Reader (Option String) := do
  if ← accept "as" then pure (some (← name)) else pure none

def importList : Nat → Reader (List (String × Option String))
  | 0 => refuse
  | fuel + 1 => do
    let n ← dottedName fuel
    let shortName ← importedAs
    if ← accept "," then pure ((n, shortName) :: (← importList fuel)) else pure [(n, shortName)]

def importedNames : Nat → Reader (List (String × Option String))
  | 0 => refuse
  | fuel + 1 => do
    let n ← name
    let shortName ← importedAs
    if ← accept "," then
      if ← at? ")" then pure [(n, shortName)] else pure ((n, shortName) :: (← importedNames fuel))
    else pure [(n, shortName)]

/-- The values of a chain of assignments, the last one first. -/
def assignments : Nat → List Expr → Reader (List Expr)
  | 0, _ => refuse
  | fuel + 1, found => do
    if ← accept "=" then
      let e ← expressionList fuel
      assignments fuel (e :: found)
    else pure found

/-- A spread may only stand inside a list of expressions. -/
def unspread (e : Expr) : Reader Expr :=
  if isStarred e then refuse else pure e

/-- One of the statements that fit on a line. -/
def simpleStatement (fuel : Nat) : Reader Stmt := do
  let w ← peek
  if w.kind = .keyword then
    match w.text with
    | "pass" => advance; pure .pass
    | "break" => advance; pure .stop
    | "continue" => advance; pure .skip
    | "return" =>
      advance
      if ← endsList then pure (.give none) else pure (.give (some (← unspread (← expressionList fuel))))
    | "raise" =>
      advance
      if ← endsList then pure (.raise none)
      else
        let e ← expression fuel
        if ← accept "from" then
          let _ ← expression fuel
        pure (.raise (some e))
    | "assert" =>
      advance
      let test ← expression fuel
      let message ← if ← accept "," then pure (some (← expression fuel)) else pure none
      pure (.assert test message)
    | "del" =>
      advance
      let e ← expressionList fuel
      match e with
      | .tuple items => if areDeletable items then pure (.delete items) else refuse
      | e => if isDeletable e then pure (.delete [e]) else refuse
    | "global" => advance; pure (.global (← nameList fuel))
    | "nonlocal" => advance; pure (.nonlocal (← nameList fuel))
    | "import" => advance; pure (.imports (← importList fuel))
    | "from" =>
      advance
      let module ← dottedName fuel
      expect "import"
      if ← accept "*" then pure (.importFrom module [("*", none)])
      else if ← accept "(" then
        let names ← importedNames fuel
        expect ")"
        pure (.importFrom module names)
      else pure (.importFrom module (← importedNames fuel))
    | _ => expressionStatement
  else expressionStatement
where
  expressionStatement : Reader Stmt := do
    let first ← expressionList fuel
    let w ← peek
    if w.kind = .sign then
      if w.text = "=" then
        match ← assignments fuel [first] with
        | value :: targets =>
          if targets.all isAssignable then pure (.assign targets.reverse (← unspread value)) else refuse
        | [] => refuse
      else
        match augmentOp? w.text with
        | some op =>
          advance
          if !isTarget first then refuse
          pure (.augment first op (← unspread (← expressionList fuel)))
        | none =>
          if w.text = ":" && isTarget first then
            advance
            let _ ← expression fuel
            let value ← if ← accept "=" then pure (some (← unspread (← expressionList fuel))) else pure none
            pure (.annotate first value)
          else pure (.expr (← unspread first))
    else pure (.expr (← unspread first))

/-- Statements between semicolons up to the end of the line. -/
def simpleLine : Nat → Reader (List Stmt)
  | 0 => refuse
  | fuel + 1 => do
    let s ← simpleStatement fuel
    if ← accept ";" then
      if (← peek).kind = .newline then
        advance
        pure [s]
      else pure (s :: (← simpleLine fuel))
    else
      let _ ← ofKind .newline
      pure [s]

mutual

/-- A statement or a line of statements. -/
def statement : Nat → Reader (List Stmt)
  | 0 => refuse
  | fuel + 1 => do
    let w ← peek
    if w.kind = .keyword then
      match w.text with
      | "if" => advance; pure [← ifRest fuel]
      | "while" =>
        advance
        let test ← bindingExpr fuel
        let body ← suite fuel
        pure [.loop test body (← otherwise fuel)]
      | "for" =>
        advance
        let target ← targetList fuel
        if !isAssignable target then refuse
        expect "in"
        let items ← expressionList fuel
        let body ← suite fuel
        pure [.each target (← unspread items) body (← otherwise fuel)]
      | "def" => pure [← definition fuel [] w.row]
      | "class" => pure [← classDefinition fuel [] w.row]
      | _ => simpleLine fuel
    else if w.kind = .sign && w.text = "@" then
      let decorators ← decorators fuel
      if ← at? "def" then pure [← definition fuel decorators w.row]
      else if ← at? "class" then pure [← classDefinition fuel decorators w.row]
      else refuse
    else simpleLine fuel

/-- An `if` or `elif` behind its word. -/
def ifRest : Nat → Reader Stmt
  | 0 => refuse
  | fuel + 1 => do
    let test ← bindingExpr fuel
    let yes ← suite fuel
    if ← accept "elif" then pure (.choose test yes [← ifRest fuel])
    else pure (.choose test yes (← otherwise fuel))

def otherwise : Nat → Reader (List Stmt)
  | 0 => refuse
  | fuel + 1 => do
    if ← accept "else" then suite fuel else pure []

def decorators : Nat → Reader (List Expr)
  | 0 => refuse
  | fuel + 1 => do
    if ← accept "@" then
      let e ← bindingExpr fuel
      let _ ← ofKind .newline
      pure (e :: (← decorators fuel))
    else pure []

def definition : Nat → List Expr → Nat → Reader Stmt
  | 0, _, _ => refuse
  | fuel + 1, decorators, row => do
    expect "def"
    let n ← shownName
    expect "("
    let ps ← parameters fuel true ")" .empty
    expect ")"
    if ← accept "->" then
      let _ ← expression fuel
    pure (.define (← owned n) n ps.params ps.defaults decorators (← suite fuel) row)

def classDefinition : Nat → List Expr → Nat → Reader Stmt
  | 0, _, _ => refuse
  | fuel + 1, decorators, row => do
    expect "class"
    let n ← shownName
    let args ← if ← accept "(" then
        let args ← arguments fuel
        expect ")"
        pure args
      else pure []
    pure (.describe (← owned n) n args decorators (← inClass n (suite fuel)) row)

/-- A colon with statements on the same line or in an indented block. -/
def suite : Nat → Reader (List Stmt)
  | 0 => refuse
  | fuel + 1 => do
    expect ":"
    if (← peek).kind = .newline then
      advance
      let _ ← ofKind .indent
      let first ← statement fuel
      pure (first ++ (← block fuel))
    else simpleLine fuel

/-- The rest of an indented block. -/
def block : Nat → Reader (List Stmt)
  | 0 => refuse
  | fuel + 1 => do
    if (← peek).kind = .dedent then
      advance
      pure []
    else
      let first ← statement fuel
      pure (first ++ (← block fuel))

end

/-- Statements up to the end of the text. -/
def statements : Nat → Nat → Reader (List Stmt)
  | 0, _ => refuse
  | count + 1, fuel => do
    let w ← peek
    match w.kind with
    | .finish => pure []
    | .newline => advance; statements count fuel
    | _ =>
      let first ← statement fuel
      pure (first ++ (← statements count fuel))

/-- The statements of a text, if it is a script. -/
def parse? (text : List Char) : Option (List Stmt) := do
  let words ← words? text
  let (found, _) ← (statements (words.length + 1) (20 * words.length + 40)).run ⟨words, none⟩
  some found

end Patchwork.Script
