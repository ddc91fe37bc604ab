import FunctionAtlas.Grammar.Rule

/-!
Contract: the grammar of Python sources.

The grammar covers Python 3 and the forms of Python 2 that can be told apart only after parsing
(`print` and `exec` statements, `<>`, `except X, name`); callers reject those by looking at the
tree. Line structure is not context free: newline, indentation and string tokens come from the
layout scanner.

Owns: the rules, in the order that fixes the numbering of tokens.
-/

namespace FunctionAtlas.Grammar.Python

open Rule

/-! ## Token patterns -/

private def digits : Pattern := .plus (.seq (.plus (.set .digit)) (.optional (.text "_")))

private def based (marks : List String) (digit : CharSet) : Pattern :=
  Pattern.sequence
    [ Pattern.choice (marks.map Pattern.text)
    , .plus (.seq (.optional (.text "_")) (.plus (.set digit)))
    , .optional (.anyOf "Ll") ]

/-- Whole numbers of base sixteen, eight, two and ten, with an optional suffix. -/
def integerPattern : Pattern :=
  Pattern.choice
    [ based ["0x", "0X"] .hexDigit
    , based ["0o", "0O"] (.range '0' '7')
    , based ["0b", "0B"] (.range '0' '1')
    , .seq digits (.choice [.optional (.anyOf "Ll"), .optional (.anyOf "jJ")]) ]

private def exponent : Pattern := Pattern.sequence [.anyOf "eE", .optional (.anyOf "+-"), digits]

/-- Numbers with a point or an exponent. -/
def floatPattern : Pattern :=
  .seq
    (Pattern.choice
      [ Pattern.sequence [digits, .text ".", .optional digits, .optional exponent]
      , Pattern.sequence [.optional digits, .text ".", digits, .optional exponent]
      , .seq digits exponent ])
    (.optional (.anyOf "jJ"))

/-- The escapes that string literals give a meaning to. -/
def escapePattern : Pattern :=
  .seq (.text "\\")
    (Pattern.choice
      [ .seq (.text "u") (.times 4 (.set .hexDigit))
      , .seq (.text "U") (.times 8 (.set .hexDigit))
      , .seq (.text "x") (.times 2 (.set .hexDigit))
      , Pattern.sequence
          [.set .digit, .optional (.set .digit), .optional (.set .digit)]
      , .seq (.optional (.text "\r")) (.text "\n")
      , .anyOf "'\"abfrntv\\"
      , Pattern.sequence [.text "N\x7b", .plus (.noneOf "\x7d"), .text "\x7d"] ])

private def immediate (literal : Option String) (precedence : Int) (body : Pattern) : Rule :=
  .token ⟨literal, body, precedence, true⟩

/-! ## Rules -/

private def unaryPrecedence : Int := 20
private def callPrecedence : Int := 22

private def suite : Rule := symbol "_suite"
private def expression : Rule := symbol "expression"
private def primary : Rule := symbol "primary_expression"
private def identifier : Rule := symbol "identifier"

private def binary (associate : Int → Rule → Rule) (operator : String) (precedence : Int) : Rule :=
  associate precedence
    (sequence [field "left" primary, field "operator" (text operator), field "right" primary])

private def boolean (operator : String) (precedence : Int) : Rule :=
  precLeft precedence
    (sequence
      [field "left" expression, field "operator" (text operator), field "right" expression])

private def simpleStatements : List (String × Rule) :=
  [ ("_simple_statements",
      sequence [sep1 (symbol "_simple_statement") ";", optional (text ";"), symbol "_newline"])
  , ("_simple_statement",
      oneOf
        [ symbol "future_import_statement", symbol "import_statement"
        , symbol "import_from_statement", symbol "print_statement", symbol "assert_statement"
        , symbol "expression_statement", symbol "return_statement", symbol "delete_statement"
        , symbol "raise_statement", symbol "pass_statement", symbol "break_statement"
        , symbol "continue_statement", symbol "global_statement", symbol "nonlocal_statement"
        , symbol "exec_statement", symbol "type_alias_statement" ])
  , ("import_statement", sequence [text "import", symbol "_import_list"])
  , ("import_prefix", repeat1 (text "."))
  , ("relative_import", sequence [symbol "import_prefix", optional (symbol "dotted_name")])
  , ("future_import_statement",
      sequence
        [ text "from", text "__future__", text "import"
        , oneOf
            [ symbol "_import_list"
            , sequence [text "(", symbol "_import_list", text ")"] ] ])
  , ("import_from_statement",
      sequence
        [ text "from"
        , field "module_name" (oneOf [symbol "relative_import", symbol "dotted_name"])
        , text "import"
        , oneOf
            [ symbol "wildcard_import", symbol "_import_list"
            , sequence [text "(", symbol "_import_list", text ")"] ] ])
  , ("_import_list",
      sequence
        [ commaSep1 (field "name" (oneOf [symbol "dotted_name", symbol "aliased_import"]))
        , optional (text ",") ])
  , ("aliased_import",
      sequence [field "name" (symbol "dotted_name"), text "as", field "alias" identifier])
  , ("wildcard_import", text "*")
  , ("print_statement",
      oneOf
        [ prec 1
            (sequence
              [ text "print", symbol "chevron"
              , repeat0 (sequence [text ",", field "argument" expression])
              , optional (text ",") ])
        , prec (-3) (precDynamic (-1)
            (sequence
              [text "print", commaSep1 (field "argument" expression), optional (text ",")])) ])
  , ("chevron", sequence [text ">>", expression])
  , ("assert_statement", sequence [text "assert", commaSep1 expression])
  , ("expression_statement",
      oneOf
        [ expression
        , sequence [commaSep1 expression, optional (text ",")]
        , symbol "assignment", symbol "augmented_assignment", symbol "yield" ])
  , ("named_expression",
      sequence
        [field "name" (symbol "_named_expression_lhs"), text ":=", field "value" expression])
  , ("_named_expression_lhs", oneOf [identifier, symbol "keyword_identifier"])
  , ("return_statement", sequence [text "return", optional (symbol "_expressions")])
  , ("delete_statement", sequence [text "del", symbol "_expressions"])
  , ("_expressions", oneOf [expression, symbol "expression_list"])
  , ("raise_statement",
      sequence
        [ text "raise", optional (symbol "_expressions")
        , optional (sequence [text "from", field "cause" expression]) ])
  , ("pass_statement", precLeft 0 (text "pass"))
  , ("break_statement", precLeft 0 (text "break"))
  , ("continue_statement", precLeft 0 (text "continue")) ]

private def compoundStatements : List (String × Rule) :=
  [ ("_compound_statement",
      oneOf
        [ symbol "if_statement", symbol "for_statement", symbol "while_statement"
        , symbol "try_statement", symbol "with_statement", symbol "function_definition"
        , symbol "class_definition", symbol "decorated_definition", symbol "match_statement" ])
  , ("if_statement",
      sequence
        [ text "if", field "condition" expression, text ":", field "consequence" suite
        , repeat0 (field "alternative" (symbol "elif_clause"))
        , optional (field "alternative" (symbol "else_clause")) ])
  , ("elif_clause",
      sequence
        [text "elif", field "condition" expression, text ":", field "consequence" suite])
  , ("else_clause", sequence [text "else", text ":", field "body" suite])
  , ("match_statement",
      sequence
        [ text "match", commaSep1 (field "subject" expression), optional (text ",")
        , text ":", field "body" (renamed (symbol "_match_block") "block") ])
  , ("_match_block",
      oneOf
        [ sequence
            [ symbol "_indent", repeat0 (field "alternative" (symbol "case_clause"))
            , symbol "_dedent" ]
        , symbol "_newline" ])
  , ("case_clause",
      sequence
        [ text "case", commaSep1 (symbol "case_pattern"), optional (text ",")
        , optional (field "guard" (symbol "if_clause")), text ":"
        , field "consequence" suite ])
  , ("for_statement",
      sequence
        [ optional (text "async"), text "for", field "left" (symbol "_left_hand_side")
        , text "in", field "right" (symbol "_expressions"), text ":", field "body" suite
        , field "alternative" (optional (symbol "else_clause")) ])
  , ("while_statement",
      sequence
        [ text "while", field "condition" expression, text ":", field "body" suite
        , optional (field "alternative" (symbol "else_clause")) ])
  , ("try_statement",
      sequence
        [ text "try", text ":", field "body" suite
        , oneOf
            [ sequence
                [ repeat1 (symbol "except_clause"), optional (symbol "else_clause")
                , optional (symbol "finally_clause") ]
            , sequence
                [ repeat1 (symbol "except_group_clause"), optional (symbol "else_clause")
                , optional (symbol "finally_clause") ]
            , symbol "finally_clause" ] ])
  , ("except_clause",
      sequence
        [ text "except"
        , optional (sequence
            [ field "value" expression
            , optional (sequence
                [oneOf [text "as", text ","], field "alias" expression]) ])
        , text ":", suite ])
  , ("except_group_clause",
      sequence
        [ text "except*"
        , sequence [expression, optional (sequence [text "as", expression])]
        , text ":", suite ])
  , ("finally_clause", sequence [text "finally", text ":", suite])
  , ("with_statement",
      sequence
        [ optional (text "async"), text "with", symbol "with_clause", text ":"
        , field "body" suite ])
  , ("with_clause",
      oneOf
        [ sequence [commaSep1 (symbol "with_item"), optional (text ",")]
        , sequence
            [text "(", commaSep1 (symbol "with_item"), optional (text ","), text ")"] ])
  , ("with_item", precDynamic 1 (sequence [field "value" expression]))
  , ("function_definition",
      sequence
        [ optional (text "async"), text "def", field "name" identifier
        , field "type_parameters" (optional (symbol "type_parameter"))
        , field "parameters" (symbol "parameters")
        , optional (sequence [text "->", field "return_type" (symbol "type")])
        , text ":", field "body" suite ])
  , ("parameters", sequence [text "(", optional (symbol "_parameters"), text ")"])
  , ("lambda_parameters", symbol "_parameters")
  , ("list_splat", sequence [text "*", expression])
  , ("dictionary_splat", sequence [text "**", expression])
  , ("global_statement", sequence [text "global", commaSep1 identifier])
  , ("nonlocal_statement", sequence [text "nonlocal", commaSep1 identifier])
  , ("exec_statement",
      sequence
        [ text "exec", field "code" (oneOf [symbol "string", identifier])
        , optional (sequence [text "in", commaSep1 expression]) ])
  , ("type_alias_statement",
      precDynamic 1 (sequence
        [text "type", field "left" (symbol "type"), text "=", field "right" (symbol "type")]))
  , ("class_definition",
      sequence
        [ text "class", field "name" identifier
        , field "type_parameters" (optional (symbol "type_parameter"))
        , field "superclasses" (optional (symbol "argument_list"))
        , text ":", field "body" suite ])
  , ("type_parameter",
      sequence [text "[", commaSep1 (symbol "type"), optional (text ","), text "]"])
  , ("parenthesized_list_splat",
      prec 1 (sequence
        [ text "("
        , oneOf
            [ renamed (symbol "parenthesized_list_splat") "parenthesized_expression"
            , symbol "list_splat" ]
        , text ")" ]))
  , ("argument_list",
      sequence
        [ text "("
        , optional (commaSep1 (oneOf
            [ expression, symbol "list_splat", symbol "dictionary_splat"
            , renamed (symbol "parenthesized_list_splat") "parenthesized_expression"
            , symbol "keyword_argument" ]))
        , optional (text ","), text ")" ])
  , ("decorated_definition",
      sequence
        [ repeat1 (symbol "decorator")
        , field "definition"
            (oneOf [symbol "class_definition", symbol "function_definition"]) ])
  , ("decorator", sequence [text "@", expression, symbol "_newline"])
  , ("_suite",
      oneOf
        [ renamed (symbol "_simple_statements") "block"
        , sequence [symbol "_indent", symbol "block"]
        , renamed (symbol "_newline") "block" ])
  , ("block", sequence [repeat0 (symbol "_statement"), symbol "_dedent"])
  , ("expression_list",
      precRight 0 (sequence
        [ expression
        , oneOf
            [ text ","
            , sequence [repeat1 (sequence [text ",", expression]), optional (text ",")] ] ]))
  , ("dotted_name", prec 1 (sep1 identifier ".")) ]

private def patternElements (element : Rule) : Rule :=
  optional (sequence [commaSep1 element, optional (text ",")])

private def number : Rule := oneOf [symbol "integer", symbol "float"]

private def casePatterns : List (String × Rule) :=
  [ ("case_pattern",
      prec 1 (oneOf
        [ renamed (symbol "_as_pattern") "as_pattern", symbol "keyword_pattern"
        , symbol "_simple_pattern" ]))
  , ("_simple_pattern",
      prec 1 (oneOf
        [ symbol "class_pattern", symbol "splat_pattern", symbol "union_pattern"
        , renamed (symbol "_list_pattern") "list_pattern"
        , renamed (symbol "_tuple_pattern") "tuple_pattern"
        , symbol "dict_pattern", symbol "string", symbol "concatenated_string"
        , symbol "true", symbol "false", symbol "none"
        , sequence [optional (text "-"), number]
        , symbol "complex_pattern", symbol "dotted_name", text "_" ]))
  , ("_as_pattern", sequence [symbol "case_pattern", text "as", identifier])
  , ("union_pattern",
      precRight 0 (sequence
        [ symbol "_simple_pattern"
        , repeat1 (precLeft 0 (sequence [text "|", symbol "_simple_pattern"])) ]))
  , ("_list_pattern",
      sequence [text "[", patternElements (symbol "case_pattern"), text "]"])
  , ("_tuple_pattern",
      sequence [text "(", patternElements (symbol "case_pattern"), text ")"])
  , ("dict_pattern",
      sequence
        [ text "\x7b"
        , patternElements (oneOf [symbol "_key_value_pattern", symbol "splat_pattern"])
        , text "\x7d" ])
  , ("_key_value_pattern",
      sequence
        [ field "key" (symbol "_simple_pattern"), text ":"
        , field "value" (symbol "case_pattern") ])
  , ("keyword_pattern", sequence [identifier, text "=", symbol "_simple_pattern"])
  , ("splat_pattern",
      prec 1 (sequence [oneOf [text "*", text "**"], oneOf [identifier, text "_"]]))
  , ("class_pattern",
      sequence
        [symbol "dotted_name", text "(", patternElements (symbol "case_pattern"), text ")"])
  , ("complex_pattern",
      prec 1 (sequence
        [optional (text "-"), number, oneOf [text "+", text "-"], number])) ]

private def splatTarget : Rule :=
  oneOf [identifier, symbol "keyword_identifier", symbol "subscript", symbol "attribute"]

private def bindingPatterns : List (String × Rule) :=
  [ ("_parameters", sequence [commaSep1 (symbol "parameter"), optional (text ",")])
  , ("_patterns", sequence [commaSep1 (symbol "pattern"), optional (text ",")])
  , ("parameter",
      oneOf
        [ identifier, symbol "typed_parameter", symbol "default_parameter"
        , symbol "typed_default_parameter", symbol "list_splat_pattern"
        , symbol "tuple_pattern", symbol "keyword_separator", symbol "positional_separator"
        , symbol "dictionary_splat_pattern" ])
  , ("pattern",
      oneOf
        [ identifier, symbol "keyword_identifier", symbol "subscript", symbol "attribute"
        , symbol "list_splat_pattern", symbol "tuple_pattern", symbol "list_pattern" ])
  , ("tuple_pattern", sequence [text "(", optional (symbol "_patterns"), text ")"])
  , ("list_pattern", sequence [text "[", optional (symbol "_patterns"), text "]"])
  , ("default_parameter",
      sequence
        [ field "name" (oneOf [identifier, symbol "tuple_pattern"]), text "="
        , field "value" expression ])
  , ("typed_default_parameter",
      prec (-1) (sequence
        [ field "name" identifier, text ":", field "type" (symbol "type"), text "="
        , field "value" expression ]))
  , ("list_splat_pattern", sequence [text "*", splatTarget])
  , ("dictionary_splat_pattern", sequence [text "**", splatTarget])
  , ("as_pattern",
      precLeft 0 (sequence
        [expression, text "as", field "alias" (renamed expression "as_pattern_target")])) ]

private def expressions : List (String × Rule) :=
  [ ("_expression_within_for_in_clause",
      oneOf [expression, renamed (symbol "lambda_within_for_in_clause") "lambda"])
  , ("expression",
      oneOf
        [ symbol "comparison_operator", symbol "not_operator", symbol "boolean_operator"
        , symbol "lambda", primary, symbol "conditional_expression"
        , symbol "named_expression", symbol "as_pattern" ])
  , ("primary_expression",
      oneOf
        [ symbol "await", symbol "binary_operator", identifier, symbol "keyword_identifier"
        , symbol "string", symbol "concatenated_string", symbol "integer", symbol "float"
        , symbol "true", symbol "false", symbol "none", symbol "unary_operator"
        , symbol "attribute", symbol "subscript", symbol "call", symbol "list"
        , symbol "list_comprehension", symbol "dictionary", symbol "dictionary_comprehension"
        , symbol "set", symbol "set_comprehension", symbol "tuple"
        , symbol "parenthesized_expression", symbol "generator_expression"
        , symbol "ellipsis", renamed (symbol "list_splat_pattern") "list_splat" ])
  , ("not_operator", prec 12 (sequence [text "not", field "argument" expression]))
  , ("boolean_operator", oneOf [boolean "and" 11, boolean "or" 10])
  , ("binary_operator",
      oneOf
        [ binary precLeft "+" 18, binary precLeft "-" 18, binary precLeft "*" 19
        , binary precLeft "@" 19, binary precLeft "/" 19, binary precLeft "%" 19
        , binary precLeft "//" 19, binary precRight "**" 21, binary precLeft "|" 14
        , binary precLeft "&" 15, binary precLeft "^" 16, binary precLeft "<<" 17
        , binary precLeft ">>" 17 ])
  , ("unary_operator",
      prec unaryPrecedence (sequence
        [ field "operator" (oneOf [text "+", text "-", text "~"])
        , field "argument" primary ]))
  , ("_not_in", sequence [text "not", text "in"])
  , ("_is_not", sequence [text "is", text "not"])
  , ("comparison_operator",
      precLeft 13 (sequence
        [ primary
        , repeat1 (sequence
            [ field "operators" (oneOf
                [ text "<", text "<=", text "==", text "!=", text ">=", text ">", text "<>"
                , text "in", renamedText (symbol "_not_in") "not in", text "is"
                , renamedText (symbol "_is_not") "is not" ])
            , primary ]) ]))
  , ("lambda",
      prec (-2) (sequence
        [ text "lambda", field "parameters" (optional (symbol "lambda_parameters"))
        , text ":", field "body" expression ]))
  , ("lambda_within_for_in_clause",
      sequence
        [ text "lambda", field "parameters" (optional (symbol "lambda_parameters"))
        , text ":", field "body" (symbol "_expression_within_for_in_clause") ])
  , ("assignment",
      sequence
        [ field "left" (symbol "_left_hand_side")
        , oneOf
            [ sequence [text "=", field "right" (symbol "_right_hand_side")]
            , sequence [text ":", field "type" (symbol "type")]
            , sequence
                [ text ":", field "type" (symbol "type"), text "="
                , field "right" (symbol "_right_hand_side") ] ] ])
  , ("augmented_assignment",
      sequence
        [ field "left" (symbol "_left_hand_side")
        , field "operator" (oneOf
            [ text "+=", text "-=", text "*=", text "/=", text "@=", text "//=", text "%="
            , text "**=", text ">>=", text "<<=", text "&=", text "^=", text "|=" ])
        , field "right" (symbol "_right_hand_side") ])
  , ("_left_hand_side", oneOf [symbol "pattern", symbol "pattern_list"])
  , ("pattern_list",
      sequence
        [ symbol "pattern"
        , oneOf
            [ text ","
            , sequence
                [repeat1 (sequence [text ",", symbol "pattern"]), optional (text ",")] ] ])
  , ("_right_hand_side",
      oneOf
        [ expression, symbol "expression_list", symbol "assignment"
        , symbol "augmented_assignment", symbol "pattern_list", symbol "yield" ])
  , ("yield",
      precRight 0 (sequence
        [ text "yield"
        , oneOf [sequence [text "from", expression], optional (symbol "_expressions")] ]))
  , ("attribute",
      prec callPrecedence (sequence
        [field "object" primary, text ".", field "attribute" identifier]))
  , ("subscript",
      prec callPrecedence (sequence
        [ field "value" primary, text "["
        , commaSep1 (field "subscript" (oneOf [expression, symbol "slice"]))
        , optional (text ","), text "]" ]))
  , ("slice",
      sequence
        [ optional expression, text ":", optional expression
        , optional (sequence [text ":", optional expression]) ])
  , ("ellipsis", text "...")
  , ("call",
      prec callPrecedence (sequence
        [ field "function" primary
        , field "arguments"
            (oneOf [symbol "generator_expression", symbol "argument_list"]) ])) ]

private def types : List (String × Rule) :=
  [ ("typed_parameter",
      prec (-1) (sequence
        [ oneOf
            [identifier, symbol "list_splat_pattern", symbol "dictionary_splat_pattern"]
        , text ":", field "type" (symbol "type") ]))
  , ("type",
      oneOf
        [ prec 1 expression, symbol "splat_type", symbol "generic_type"
        , symbol "union_type", symbol "constrained_type", symbol "member_type" ])
  , ("splat_type", prec 1 (sequence [oneOf [text "*", text "**"], identifier]))
  , ("generic_type",
      prec 1 (sequence
        [oneOf [identifier, renamed (text "type") "identifier"], symbol "type_parameter"]))
  , ("union_type", precLeft 0 (sequence [symbol "type", text "|", symbol "type"]))
  , ("constrained_type", precRight 0 (sequence [symbol "type", text ":", symbol "type"]))
  , ("member_type", sequence [symbol "type", text ".", identifier])
  , ("keyword_argument",
      sequence
        [ field "name" (oneOf [identifier, symbol "keyword_identifier"]), text "="
        , field "value" expression ]) ]

private def comprehension (opening closing : String) (body : Rule) : Rule :=
  sequence
    [text opening, field "body" body, symbol "_comprehension_clauses", text closing]

private def collections : List (String × Rule) :=
  [ ("list", sequence [text "[", optional (symbol "_collection_elements"), text "]"])
  , ("set", sequence [text "\x7b", symbol "_collection_elements", text "\x7d"])
  , ("tuple", sequence [text "(", optional (symbol "_collection_elements"), text ")"])
  , ("dictionary",
      sequence
        [ text "\x7b"
        , optional (commaSep1 (oneOf [symbol "pair", symbol "dictionary_splat"]))
        , optional (text ","), text "\x7d" ])
  , ("pair", sequence [field "key" expression, text ":", field "value" expression])
  , ("list_comprehension", comprehension "[" "]" expression)
  , ("dictionary_comprehension", comprehension "\x7b" "\x7d" (symbol "pair"))
  , ("set_comprehension", comprehension "\x7b" "\x7d" expression)
  , ("generator_expression", comprehension "(" ")" expression)
  , ("_comprehension_clauses",
      sequence
        [ symbol "for_in_clause"
        , repeat0 (oneOf [symbol "for_in_clause", symbol "if_clause"]) ])
  , ("parenthesized_expression",
      prec 1 (sequence [text "(", oneOf [expression, symbol "yield"], text ")"]))
  , ("_collection_elements",
      sequence
        [ commaSep1 (oneOf
            [ expression, symbol "yield", symbol "list_splat"
            , symbol "parenthesized_list_splat" ])
        , optional (text ",") ])
  , ("for_in_clause",
      precLeft 0 (sequence
        [ optional (text "async"), text "for", field "left" (symbol "_left_hand_side")
        , text "in"
        , field "right" (commaSep1 (symbol "_expression_within_for_in_clause"))
        , optional (text ",") ]))
  , ("if_clause", sequence [text "if", expression])
  , ("conditional_expression",
      precRight (-1) (sequence
        [expression, text "if", expression, text "else", expression])) ]

private def literals : List (String × Rule) :=
  [ ("concatenated_string", sequence [symbol "string", repeat1 (symbol "string")])
  , ("string",
      sequence
        [ symbol "string_start"
        , repeat0 (oneOf [symbol "interpolation", symbol "string_content"])
        , symbol "string_end" ])
  , ("string_content",
      precRight 0 (repeat1 (oneOf
        [ symbol "escape_interpolation", symbol "escape_sequence"
        , symbol "_not_escape_sequence", symbol "_string_content" ])))
  , ("interpolation",
      sequence
        [ text "\x7b", field "expression" (symbol "_f_expression"), optional (text "=")
        , optional (field "type_conversion" (symbol "type_conversion"))
        , optional (field "format_specifier" (symbol "format_specifier")), text "\x7d" ])
  , ("_f_expression",
      oneOf
        [expression, symbol "expression_list", symbol "pattern_list", symbol "yield"])
  , ("escape_sequence", immediate none 1 escapePattern)
  , ("_not_escape_sequence", immediate (some "\\") 0 (.text "\\"))
  , ("format_specifier",
      sequence
        [ text ":"
        , repeat0 (oneOf
            [ .token ⟨none, .plus (.noneOf "\x7b\x7d\n"), 1, false⟩
            , renamed (symbol "interpolation") "format_expression" ]) ])
  , ("type_conversion", pattern (.seq (.text "!") (.set (.range 'a' 'z'))))
  , ("integer", pattern integerPattern)
  , ("float", pattern floatPattern)
  , ("identifier", pattern (.seq (.set .nameStart) (.star (.set .nameContinue))))
  , ("keyword_identifier",
      oneOf
        [ prec (-3) (renamed
            (oneOf [text "print", text "exec", text "async", text "await"]) "identifier")
        , renamed (oneOf [text "type", text "match"]) "identifier" ])
  , ("true", text "True")
  , ("false", text "False")
  , ("none", text "None")
  , ("await", prec unaryPrecedence (sequence [text "await", primary]))
  , ("comment", pattern (.seq (.text "#") (.star (.noneOf "\n"))))
  , ("line_continuation",
      pattern (.seq (.text "\\")
        (.alt (.seq (.optional (.text "\r")) (.text "\n")) (.text "\x00"))))
  , ("positional_separator", text "/")
  , ("keyword_separator", text "*") ]

/-- The grammar of a Python module. -/
def grammar : Definition where
  rules :=
    [ ("module", repeat0 (symbol "_statement"))
    , ("_statement", oneOf [symbol "_simple_statements", symbol "_compound_statement"]) ] ++
    simpleStatements ++ compoundStatements ++ casePatterns ++ bindingPatterns ++ expressions ++
    types ++ collections ++ literals
  extras := ["comment", "line_continuation"]
  separators := .set .blank
  externals :=
    [ .scanned "_newline", .scanned "_indent", .scanned "_dedent", .scanned "string_start"
    , .scanned "_string_content", .scanned "escape_interpolation", .scanned "string_end"
    , .shared (symbol "comment"), .shared (text "]"), .shared (text ")")
    , .shared (text "\x7d"), .shared (text "except") ]
  inlined :=
    [ "_simple_statement", "_compound_statement", "_suite", "_expressions", "_left_hand_side"
    , "keyword_identifier" ]
  supertypes :=
    [ "_simple_statement", "_compound_statement", "expression", "primary_expression"
    , "pattern", "parameter" ]
  word := "identifier"

end FunctionAtlas.Grammar.Python
