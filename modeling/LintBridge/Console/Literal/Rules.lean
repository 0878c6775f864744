-- SUMMARY: The rules of expressions.
import LintBridge.Console.Literal.Grammar

/-!
# Rules

The grammar of expressions, without what stands in square brackets: tags are cut off at these. The rules
for faults look for orders of tokens that are close to an expression and say what is wrong with them.
-/

namespace LintBridge.Console.Literal

open Production

/-! ## Verdicts -/

/-- Two expressions side by side: an old command is told elsewhere, and outside of brackets no comma can
be missing. -/
def neighbours : List Part → Nat → Verdict
  | .expr (.name s) :: _, level =>
    if oldCommands.contains s || level = 0 then .refuses else .finds .commaMissing
  | _, level => if level = 0 then .refuses else .finds .commaMissing

/-- A name side by side with an expression. -/
def afterName : List Part → Nat → Verdict
  | .expr (.name s) :: _, _ => if oldCommands.contains s then .finds (.oldCommand s) else .refuses
  | _, _ => .refuses

/-- Arguments before the clauses of a generator without brackets. A single one may be written so. -/
def beforeClauses : List Part → Nat → Verdict
  | .arguments positional _ :: _, _ => if positional ≤ 1 then .refuses else .finds .bareGenerator
  | _, _ => .refuses

/-- Arguments before others that should have come first. -/
def beforeArguments : List Part → Nat → Verdict
  | .arguments _ isUnpacked :: _, _ => .finds (.lateArgument isUnpacked)
  | _, _ => .refuses

/-- An expression that is assigned to by each clause of a comprehension. -/
def asTarget : List Part → Nat → Verdict
  | .expr e :: _, _ =>
    match e.badTarget? with
    | some kind => .finds (.target kind)
    | none => .refuses
  | _, _ => .refuses

/-- A fault with the kind of the first expression. -/
def withKind (f : String → Fault) : List Part → Nat → Verdict
  | .expr e :: _, _ => .finds (f e.kind)
  | _, _ => .refuses

/-! ## Productions in use more than once -/

/-- A choice between two expressions. -/
def conditional : Production :=
  kind "conditional expression"
    [.rule .disjunction, "if", .rule .disjunction, "else", .rule .expression]

/-- Expressions with commas between them: a tuple if there is a comma. -/
def commaSeparated (r : Rule) : List Production :=
  let tuple (parts : List Part) : Part := .expr (.tuple (Part.exprs parts))
  [made [.rule r, .repeated [",", .rule r], .optional [","]] tuple, made [.rule r, ","] tuple,
   plain [.rule r]]

/-- Operands of one rank with some signs between them, which belong to the left. -/
def leftOperators (r next : Rule) (signs : List String) : List Production :=
  signs.map (fun s => kind "expression" [.rule r, .text s, .rule next]) ++ [plain [.rule next]]

/-- Operands of one rank with a word between them. -/
def wordOperator (word : String) (next : Rule) : List Production :=
  [kind "expression" [.rule next, .repeated [.text word, .rule next]], plain [.rule next]]

/-- A parameter, which ends at a comma or before the colon. -/
def parameterEnd (items : List Item) : List Production :=
  [plain (items ++ [.text ","]), plain (items ++ [.ahead [":"]])]

/-- The clauses of a comprehension after the word that is told to be at their beginning. -/
def clauseAfter (words : List Item) : Production :=
  { items := words ++ [.rule .targets, .text "in"]
    sure := [.rule .disjunction, .many ["if", .rule .disjunction]]
    verdict := fun _ _ => .yields [] }

/-! ## Items in use more than once -/

/-- An expression that nothing is assigned to, or one with a name that is. -/
def element : Item := .oneOf [[.rule .assignment], [.rule .expression, .notAhead [":="]]]

/-- An equals sign, with or without a colon. -/
def anyEquals : Item := .oneOf [["="], [":="]]

/-- Parameters before a slash. -/
def beforeSlash : Item := .oneOf [[.rule .slashRequired], [.rule .slashDefaulted]]

/-- What may follow a star at once. -/
def afterStar : Item := .oneOf [[.rule .required], [","]]

/-- What follows the value of a member of a dictionary. -/
def afterValue : Item := .oneOf [["\x7d"], [","]]

/-! ## The grammar -/

/-- The productions of each rule, in the order in which they are tried. -/
def Rule.productions : Rule → List Production
  | .whole => [plain [.rule .expressions, .many [.lineBreak], .finish]]
  | .inner => [plain [.rule .starExpressions]]
  -- Expressions
  | .expressions => commaSeparated .expression
  | .expression =>
    [search .faultyExpression, search .oldCommand, conditional, plain [.rule .disjunction],
     plain [.rule .lambda]]
  | .soundExpression => [conditional, plain [.rule .disjunction], plain [.rule .lambda]]
  | .yielded =>
    [kind "yield expression" ["yield", "from", .rule .expression],
     kind "yield expression" ["yield", .optional [.rule .starExpressions]]]
  | .starExpressions => commaSeparated .starExpression
  | .starExpression =>
    [made ["*", .rule .bitwiseOr] fun
      | [.expr e] => .expr (.starred e)
      | _ => .expr (.other "starred"),
     plain [.rule .expression]]
  | .members => [plain [.separated [.rule .member], .optional [","]]]
  | .member =>
    [made ["*", .rule .bitwiseOr] fun
      | [.expr e] => .expr (.starred e)
      | _ => .expr (.other "starred"),
     plain [.rule .namedExpression]]
  | .assignment =>
    [{ items := [.name, ":="]
       sure := [.rule .expression]
       verdict := fun _ _ => .yields [.expr (.other "named expression")] }]
  | .namedExpression =>
    [plain [.rule .assignment], search .faultyNamedExpression, plain [.rule .expression, .notAhead [":="]]]
  -- Operators
  | .disjunction => wordOperator "or" .conjunction
  | .conjunction => wordOperator "and" .inversion
  | .inversion => [kind "expression" ["not", .rule .inversion], plain [.rule .comparison]]
  | .comparison =>
    let compared (isMembership : Bool) : List Part → Part
      | .expr left :: _ => .expr (.comparison isMembership left)
      | _ => .expr (.other "comparison")
    [made [.rule .bitwiseOr, "in", .rule .bitwiseOr, .many [.rule .comparisonTail]] (compared true),
     made [.rule .bitwiseOr, .repeated [.rule .comparisonTail]] (compared false),
     plain [.rule .bitwiseOr]]
  | .comparisonTail =>
    [["=="], ["!="], ["<="], ["<"], [">="], [">"], ["not", "in"], ["in"], ["is", "not"], ["is"]].map
      fun words => plain (words.map Item.text ++ [.rule .bitwiseOr])
  | .bitwiseOr => leftOperators .bitwiseOr .bitwiseXor ["|"]
  | .bitwiseXor => leftOperators .bitwiseXor .bitwiseAnd ["^"]
  | .bitwiseAnd => leftOperators .bitwiseAnd .shift ["&"]
  | .shift => leftOperators .shift .sum ["<<", ">>"]
  | .sum =>
    [made [.rule .sum, "+", .rule .term] Part.ofSum, made [.rule .sum, "-", .rule .term] Part.ofSum,
     plain [.rule .term]]
  | .term => leftOperators .term .factor ["*", "/", "//", "%", "@"]
  | .factor =>
    let signed : List Part → Part
      | [.expr e] => .expr (.signed e)
      | _ => .expr (.other "expression")
    [made ["+", .rule .factor] signed, made ["-", .rule .factor] signed,
     kind "expression" ["~", .rule .factor], plain [.rule .power]]
  | .power => [kind "expression" [.rule .awaited, "**", .rule .factor], plain [.rule .awaited]]
  | .awaited => [kind "await expression" ["await", .rule .primary], plain [.rule .primary]]
  | .primary =>
    [made [.rule .primary, ".", .name] fun _ => .expr .attribute,
     kind "function call" [.rule .primary, .rule .generator],
     made [.rule .primary, "(", .optional [.rule .argumentList], ")"] Part.ofCall,
     plain [.rule .atom]]
  | .atom =>
    [plain [.name]] ++
      constants.map (fun s => made [.text s] fun _ => .expr (.constant s)) ++
      [plain [.rule .quotedTexts], plain [.number],
       plain [.rule .tuple], plain [.rule .group], plain [.rule .generator],
       plain [.rule .dict], plain [.rule .set], plain [.rule .dictComprehension],
       plain [.rule .setComprehension],
       made ["..."] fun _ => .expr (.constant "ellipsis")]
  -- Displays and comprehensions
  | .quotedTexts => [plain [.quotes]]
  | .group =>
    [plain ["(", .oneOf [[.rule .yielded], [.rule .namedExpression]], ")"], search .faultyGroup]
  | .tuple =>
    [made ["(", .optional [.rule .member, ",", .optional [.rule .members]], ")"] fun parts =>
      .expr (.tuple (Part.exprs parts))]
  | .set => [made ["\x7b", .rule .members, "\x7d"] fun parts => .expr (.set (Part.exprs parts))]
  | .dict =>
    [made ["\x7b", .optional [.rule .pairs], "\x7d"] fun parts => .expr (.dict (Part.members parts)),
     plain ["\x7b", .rule .faultyPairs, "\x7d"]]
  | .pairs => [plain [.separated [.rule .pairOrUnpacked], .optional [","]]]
  | .pairOrUnpacked =>
    [made ["**", .rule .bitwiseOr] fun
      | [.expr e] => .pair none e
      | _ => .expr (.other "expression"),
     plain [.rule .pair]]
  | .pair =>
    [made [.rule .expression, ":", .rule .expression] fun
      | [.expr key, .expr value] => .pair (some key) value
      | _ => .expr (.other "expression")]
  | .clauses => [plain [.repeated [.rule .clause]]]
  | .clause => [clauseAfter ["async", "for"], clauseAfter ["for"], search .faultyTarget]
  | .setComprehension =>
    [kind "set comprehension" ["\x7b", .rule .namedExpression, .rule .clauses, "\x7d"],
     search .faultyComprehension]
  | .dictComprehension =>
    [kind "dict comprehension" ["\x7b", .rule .pair, .rule .clauses, "\x7d"],
     search .faultyDictComprehension]
  | .generator =>
    [kind "generator expression" ["(", element, .rule .clauses, ")"], search .faultyComprehension]
  -- Arguments
  | .argumentList =>
    [plain [.rule .arguments, .optional [","], .ahead [")"]], search .faultyArguments]
  | .arguments =>
    [made [.separated [.rule .positional], .optional [",", .rule .lateArguments]] Part.ofArguments,
     made [.rule .lateArguments] Part.ofArguments]
  | .lateArguments =>
    [plain [.separated [.rule .namedOrStarred], ",", .separated [.rule .namedOrUnpacked]],
     plain [.separated [.rule .namedOrStarred]],
     plain [.separated [.rule .namedOrUnpacked]]]
  | .positional => [plain [.rule .starred], plain [element, .notAhead ["="]]]
  | .starred =>
    [made ["*", .rule .expression] fun
      | [.expr e] => .expr (.starred e)
      | _ => .expr (.other "starred"),
     fault .loneStar ["*"]]
  | .namedOrStarred =>
    [search .faultyNamed, made [.name, "=", .rule .expression] fun _ => .argument .named,
     plain [.rule .starred]]
  | .namedOrUnpacked =>
    [search .faultyNamed, made [.name, "=", .rule .expression] fun _ => .argument .named,
     made ["**", .rule .expression] fun _ => .argument .unpacked]
  -- Functions without names
  | .lambda => [kind "lambda" ["lambda", .optional [.rule .parameterList], ":", .rule .expression]]
  | .parameterList => [search .faultyParameters, plain [.rule .parameters]]
  | .parameters =>
    [plain [.rule .slashRequired, .many [.rule .required], .many [.rule .defaulted],
       .optional [.rule .starParameters]],
     plain [.rule .slashDefaulted, .many [.rule .defaulted], .optional [.rule .starParameters]],
     plain [.repeated [.rule .required], .many [.rule .defaulted], .optional [.rule .starParameters]],
     plain [.repeated [.rule .defaulted], .optional [.rule .starParameters]],
     plain [.rule .starParameters]]
  | .slashRequired => parameterEnd [.repeated [.rule .required], "/"]
  | .slashDefaulted => parameterEnd [.many [.rule .required], .repeated [.rule .defaulted], "/"]
  | .starParameters =>
    [search .faultyStar,
     plain ["*", .rule .required, .many [.rule .parameter], .optional [.rule .doubleStarParameter]],
     plain ["*", ",", .repeated [.rule .parameter], .optional [.rule .doubleStarParameter]],
     plain [.rule .doubleStarParameter]]
  | .doubleStarParameter => [search .faultyDoubleStar, plain ["**", .rule .required]]
  | .required => parameterEnd [.name]
  | .defaulted => parameterEnd [.name, .rule .default]
  | .parameter => parameterEnd [.name, .optional [.rule .default]]
  | .default => [plain ["=", .rule .expression], search .faultyDefault]
  -- What is assigned to
  | .targets =>
    [plain [.rule .target, .notAhead [","]],
     plain [.rule .target, .many [",", .rule .target], .optional [","]]]
  | .target => [plain ["*", .notAhead ["*"], .rule .target], plain [.rule .plainTarget]]
  | .plainTarget =>
    [plain [.rule .targetPrimary, ".", .name, .notAhead [.oneOf [["("], ["."]]]], plain [.rule .targetAtom]]
  | .targetAtom =>
    [plain [.name], plain ["(", .rule .plainTarget, ")"],
     plain ["(", .optional [.oneOf
       [[.rule .target, .repeated [",", .rule .target], .optional [","]], [.rule .target, ","]]], ")"]]
  | .targetPrimary =>
    let more : Item := .ahead [.oneOf [["("], ["."]]]
    [made [.rule .targetPrimary, ".", .name, more] fun _ => .expr .attribute,
     kind "function call" [.rule .targetPrimary, .rule .generator, more],
     kind "function call" [.rule .targetPrimary, "(", .optional [.rule .argumentList], ")", more],
     plain [.rule .atom, more]]
  -- Faults of expressions
  | .oldCommand =>
    [{ items := [.name, .notAhead ["("], .rule .starExpressions], verdict := afterName }]
  | .faultyExpression =>
    [{ items := [.notAhead [.oneOf [[.name, .quoted], [.softWord]]], .rule .disjunction,
         .rule .soundExpression]
       verdict := neighbours },
     fault .elseMissing
       [.rule .disjunction, "if", .rule .disjunction, .notAhead [.oneOf [["else"], [":"]]]]]
  | .faultyNamedExpression =>
    [{ items := [.rule .expression, ":=", .rule .expression], verdict := withKind .assigned },
     fault .nameEquals [.name, "=", .rule .bitwiseOr, .notAhead [anyEquals]],
     { items := [.notAhead [.oneOf [[.rule .tuple], [.rule .generator], ["True"], ["None"], ["False"]]],
         .rule .bitwiseOr, "=", .rule .bitwiseOr, .notAhead [anyEquals]]
       verdict := withKind .equals }]
  | .faultyGroup =>
    [fault .starred ["(", .rule .starred, ")"], fault .doubleStarred ["(", "**", .rule .expression, ")"]]
  | .faultyComprehension =>
    [fault .starredElement [.oneOf [["("], ["\x7b"]], .rule .starred, .rule .clauses],
     fault .bareElements ["\x7b", .rule .member, ",", .rule .members, .rule .clauses],
     fault .bareElements ["\x7b", .rule .member, ",", .rule .clauses]]
  | .faultyDictComprehension =>
    [fault .doubleStarredElement ["\x7b", "**", .rule .bitwiseOr, .rule .clauses, "\x7d"]]
  | .faultyPairs =>
    [plain [.separated [.rule .pairOrUnpacked], ",", .rule .faultyPair],
     fault .starredValue [.rule .expression, ":", "*", .rule .bitwiseOr],
     fault .valueMissing [.rule .expression, ":", .ahead [afterValue]]]
  | .faultyPair =>
    [fault .colonMissing [.rule .expression, .notAhead [":"]],
     fault .starredValue [.rule .expression, ":", "*", .rule .bitwiseOr],
     fault .valueMissing [.rule .expression, ":", .ahead [afterValue]]]
  | .faultyTarget =>
    [{ items := [.optional ["async"], "for", .rule .starExpressions], verdict := asTarget }]
  -- Faults of arguments and parameters
  | .faultyArguments =>
    [fault .lateStar
       [.oneOf [[.separated [.rule .positional], ",", .rule .lateArguments], [.rule .lateArguments]], ",",
        .separated [.rule .starred, .notAhead ["="]]],
     fault .bareGenerator
       [.rule .expression, .rule .clauses, ",",
        .optional [.oneOf [[.rule .arguments], [.rule .expression, .rule .clauses]]]],
     fault .nameEquals [.name, "=", .rule .expression, .rule .clauses],
     { items := [.rule .arguments, .rule .clauses], verdict := beforeClauses },
     fault .bareGenerator [.rule .arguments, ",", .rule .expression, .rule .clauses],
     { items := [.rule .arguments, ",", .rule .arguments], verdict := beforeArguments }]
  | .faultyNamed =>
    constants.map (fun s => fault (.target s) [.text s, "="]) ++
      [fault .nameEquals [.name, "=", .rule .expression, .rule .clauses],
       fault .argumentEquals [.notAhead [.name, "="], .rule .expression, "="]]
  | .faultyParameters =>
    [fault (.parameter .lateRequired) [.many [.rule .required], .rule .lateDefaults, .rule .required],
     fault (.parameter .parenthesized)
       [.many [.rule .required], "(", .separated [.name], .optional [","], ")"],
     fault (.parameter .nothingBeforeSlash) ["/", ","],
     fault (.parameter .secondSlash) [beforeSlash, .many [.rule .parameter], "/"],
     fault (.parameter .slashAfterStar)
       [.optional [beforeSlash], .many [.rule .parameter], "*", .oneOf [[","], [.rule .required]],
        .many [.rule .parameter], "/"],
     fault (.parameter .commaMissing) [.repeated [.rule .parameter], "/", "*"]]
  | .lateDefaults => [plain [.rule .slashDefaulted], plain [.repeated [.rule .defaulted]]]
  | .faultyStar =>
    [fault (.parameter .bareStar) ["*", .oneOf [[":"], [",", .oneOf [[":"], ["**"]]]]],
     fault (.parameter .starDefault) ["*", .name, "="],
     fault (.parameter .secondStar) ["*", afterStar, .many [.rule .parameter], "*", afterStar]]
  | .faultyDoubleStar =>
    [fault (.parameter .doubleStarDefault) ["**", .name, "="],
     fault (.parameter .afterDoubleStar) ["**", .name, ",", .name],
     fault (.parameter .afterDoubleStar) ["**", .name, ",", .oneOf [["*"], ["**"], ["/"]]]]
  | .faultyDefault => [fault (.parameter .defaultMissing) ["=", .ahead [.oneOf [[")"], [","]]]]]

/-- The rules that can begin with themselves. They are matched once without that, and then over and over
with the last match at their beginning, as long as the match grows. -/
def Rule.isLeftRecursive : Rule → Bool
  | .bitwiseOr | .bitwiseXor | .bitwiseAnd | .shift | .sum | .term | .primary | .targetPrimary => true
  | _ => false

/-- The rules whose outcome at a place is kept, also from tries without search for faults. -/
def Rule.isRemembered : Rule → Bool
  | .expression | .starExpression | .disjunction | .conjunction | .inversion | .factor | .awaited
  | .quotedTexts | .argumentList | .target | .plainTarget | .faultyNamedExpression => true
  | _ => false

end LintBridge.Console.Literal
