import TypeGuards.Grammar.Rule
/-!
The rules of TypeScript, with and without embedded markup elements. Only the fields that the syntax
of an interface declaration is read through carry a name.
-/
namespace TypeGuards.TypeScript

open Grammar Grammar.Rule

/-- The two kinds of source text: plain ones, and those with embedded markup elements. -/
inductive Dialect where
  | typescript
  | tsx
deriving DecidableEq, Inhabited, Repr

/-! ### Modules and statements -/

def moduleRules : List (String × Rule) :=
  [("program", all [maybe (ref "hash_bang_line"), many (ref "statement")]),
   ("hash_bang_line", lexeme),
   ("export_statement", oneOf [
      all ["export",
        oneOf [
          all ["*", ref "_from_clause"],
          all [ref "namespace_export", ref "_from_clause"],
          all [ref "export_clause", ref "_from_clause"],
          ref "export_clause"],
        ref "_semicolon"],
      all [many (ref "decorator"), "export",
        oneOf [
          field "declaration" (ref "declaration"),
          all ["default",
            oneOf [
              field "declaration" (ref "declaration"),
              all [ref "expression", ref "_semicolon"]]]]],
      all ["export", "type", ref "export_clause", maybe (ref "_from_clause"), ref "_semicolon"],
      all ["export", "import", ref "import_alias"],
      all ["export", "=", ref "expression", ref "_semicolon"],
      all ["export", "as", "namespace", ref "identifier", ref "_semicolon"]]),
   ("namespace_export", all ["*", "as", ref "_module_export_name"]),
   ("export_clause", all ["\x7b", list (ref "export_specifier"), maybe ",", "\x7d"]),
   ("export_specifier", all [
      maybe (oneOf ["type", "typeof"]),
      ref "_module_export_name",
      maybe (all ["as", ref "_module_export_name"])]),
   ("_module_export_name", oneOf [ref "identifier", ref "string"]),
   ("declaration", oneOf [
      ref "function_declaration",
      ref "generator_function_declaration",
      ref "class_declaration",
      ref "lexical_declaration",
      ref "variable_declaration",
      ref "function_signature",
      ref "abstract_class_declaration",
      ref "module",
      rank "declare" (ref "internal_module"),
      ref "type_alias_declaration",
      ref "enum_declaration",
      ref "interface_declaration",
      ref "import_alias",
      ref "ambient_declaration"]),
   ("import", literal "import"),
   ("import_statement", all ["import",
      maybe (oneOf ["type", "typeof"]),
      oneOf [
        all [ref "import_clause", ref "_from_clause"],
        ref "import_require_clause",
        ref "string"],
      maybe (ref "import_attribute"),
      ref "_semicolon"]),
   ("import_clause", oneOf [
      ref "namespace_import",
      ref "named_imports",
      all [ref "_import_identifier",
        maybe (all [",", oneOf [ref "namespace_import", ref "named_imports"]])]]),
   ("_from_clause", all ["from", ref "string"]),
   ("namespace_import", all ["*", "as", ref "identifier"]),
   ("named_imports", all ["\x7b", list (ref "import_specifier"), maybe ",", "\x7d"]),
   ("import_specifier", all [
      maybe (oneOf ["type", "typeof"]),
      oneOf [
        ref "_import_identifier",
        all [oneOf [ref "_module_export_name", shownAs "identifier" "default"],
          "as", ref "_import_identifier"]]]),
   ("import_attribute", all ["with", ref "object"]),
   ("statement", oneOf [
      ref "export_statement", ref "import_statement", ref "debugger_statement",
      ref "expression_statement", ref "declaration", ref "statement_block",
      ref "if_statement", ref "switch_statement", ref "for_statement", ref "for_in_statement",
      ref "while_statement", ref "do_statement", ref "try_statement", ref "with_statement",
      ref "break_statement", ref "continue_statement", ref "return_statement",
      ref "throw_statement", ref "empty_statement", ref "labeled_statement"]),
   ("expression_statement", all [ref "_expressions", ref "_semicolon"]),
   ("variable_declaration", all ["var", list1 (ref "variable_declarator"), ref "_semicolon"]),
   ("lexical_declaration", all [oneOf ["let", "const"], list1 (ref "variable_declarator"),
      ref "_semicolon"]),
   ("variable_declarator", oneOf [
      all [oneOf [ref "identifier", ref "_destructuring_pattern"],
        maybe (ref "type_annotation"), maybe (ref "_initializer")],
      rank "declare" (all [ref "identifier", "!", ref "type_annotation"])]),
   ("statement_block", right (all ["\x7b", many (ref "statement"), "\x7d",
      maybe (ref "_automatic_semicolon")])),
   ("else_clause", all ["else", ref "statement"]),
   ("if_statement", right (all ["if", ref "parenthesized_expression", ref "statement",
      maybe (ref "else_clause")])),
   ("switch_statement", all ["switch", ref "parenthesized_expression", ref "switch_body"]),
   ("for_statement", all ["for", "(",
      oneOf [
        oneOf [ref "lexical_declaration", ref "variable_declaration"],
        all [ref "_expressions", ";"],
        ref "empty_statement"],
      oneOf [all [ref "_expressions", ";"], ref "empty_statement"],
      maybe (ref "_expressions"), ")", ref "statement"]),
   ("for_in_statement", all ["for", maybe "await", ref "_for_header", ref "statement"]),
   ("_for_header", all ["(",
      oneOf [
        oneOf [ref "_lhs_expression", ref "parenthesized_expression"],
        all ["var", oneOf [ref "identifier", ref "_destructuring_pattern"],
          maybe (ref "_initializer")],
        all [oneOf ["let", "const"], oneOf [ref "identifier", ref "_destructuring_pattern"],
          maybe (ref "_automatic_semicolon")]],
      oneOf ["in", "of"], ref "_expressions", ")"]),
   ("while_statement", all ["while", ref "parenthesized_expression", ref "statement"]),
   ("do_statement", right (all ["do", ref "statement", "while", ref "parenthesized_expression",
      maybe (ref "_semicolon")])),
   ("try_statement", all ["try", ref "statement_block", maybe (ref "catch_clause"),
      maybe (ref "finally_clause")]),
   ("with_statement", all ["with", ref "parenthesized_expression", ref "statement"]),
   ("break_statement", all ["break", maybe (shownAs "statement_identifier" (ref "identifier")),
      ref "_semicolon"]),
   ("continue_statement", all ["continue",
      maybe (shownAs "statement_identifier" (ref "identifier")), ref "_semicolon"]),
   ("debugger_statement", all ["debugger", ref "_semicolon"]),
   ("return_statement", all ["return", maybe (ref "_expressions"), ref "_semicolon"]),
   ("throw_statement", all ["throw", ref "_expressions", ref "_semicolon"]),
   ("empty_statement", literal ";"),
   ("labeled_statement", dynamic (-1) (all [
      shownAs "statement_identifier" (oneOf [ref "identifier", ref "_reserved_identifier"]),
      ":", ref "statement"])),
   ("switch_body", all ["\x7b", many (oneOf [ref "switch_case", ref "switch_default"]), "\x7d"]),
   ("switch_case", all ["case", ref "_expressions", ":", many (ref "statement")]),
   ("switch_default", all ["default", ":", many (ref "statement")]),
   ("catch_clause", all ["catch",
      maybe (all ["(", oneOf [ref "identifier", ref "_destructuring_pattern"],
        maybe (ref "type_annotation"), ")"]),
      ref "statement_block"]),
   ("finally_clause", all ["finally", ref "statement_block"]),
   ("parenthesized_expression", all ["(",
      oneOf [
        all [ref "expression", maybe (ref "type_annotation")],
        ref "sequence_expression"],
      ")"])]

/-! ### Expressions -/

def binary (operator rankName : String) : Rule :=
  leftRank rankName (all [ref "expression", literal operator, ref "expression"])

def expressionRules (dialect : Dialect) : List (String × Rule) :=
  let own := [ref "as_expression", ref "satisfies_expression", ref "instantiation_expression",
    ref "internal_module"]
  let common := [ref "assignment_expression", ref "augmented_assignment_expression",
    ref "await_expression", ref "unary_expression", ref "binary_expression",
    ref "ternary_expression", ref "update_expression", ref "new_expression", ref "yield_expression"]
  [("_expressions", oneOf [ref "expression", ref "sequence_expression"]),
   ("expression", oneOf <| match dialect with
      | .typescript => own ++ [ref "type_assertion", ref "primary_expression"] ++ common
      | .tsx => own ++ [ref "primary_expression", ref "_jsx_element"] ++ common),
   ("primary_expression", oneOf [
      ref "subscript_expression", ref "member_expression", ref "parenthesized_expression",
      ref "_identifier", shownAs "identifier" (ref "_reserved_identifier"),
      ref "this", ref "super", ref "number", ref "string", ref "template_string", ref "regex",
      ref "true", ref "false", ref "null", ref "object", ref "array", ref "function_expression",
      ref "arrow_function", ref "generator_function", ref "class", ref "meta_property",
      ref "call_expression", ref "non_null_expression"]),
   ("yield_expression", right (all ["yield",
      oneOf [all ["*", ref "expression"], maybe (ref "expression")]])),
   ("object", rank "object" (all ["\x7b",
      list (maybe (oneOf [
        ref "pair", ref "spread_element", ref "method_definition",
        shownAs "shorthand_property_identifier"
          (oneOf [ref "identifier", ref "_reserved_identifier"])])),
      "\x7d"])),
   ("object_pattern", rank "object" (all ["\x7b",
      list (maybe (oneOf [
        ref "pair_pattern", ref "rest_pattern", ref "object_assignment_pattern",
        shownAs "shorthand_property_identifier_pattern"
          (oneOf [ref "identifier", ref "_reserved_identifier"])])),
      "\x7d"])),
   ("assignment_pattern", all [ref "pattern", "=", ref "expression"]),
   ("object_assignment_pattern", all [
      oneOf [
        shownAs "shorthand_property_identifier_pattern"
          (oneOf [ref "_reserved_identifier", ref "identifier"]),
        ref "_destructuring_pattern"],
      "=", ref "expression"]),
   ("array", all ["[", list (maybe (oneOf [ref "expression", ref "spread_element"])), "]"]),
   ("array_pattern", all ["[", list (maybe (oneOf [ref "pattern", ref "assignment_pattern"])), "]"])]
  ++ (match dialect with
    | .typescript => []
    | .tsx =>
      [("_jsx_element", oneOf [ref "jsx_element", ref "jsx_self_closing_element"]),
       ("jsx_element", all [ref "jsx_opening_element", many (ref "_jsx_child"),
          ref "jsx_closing_element"]),
       ("html_character_reference", lexeme),
       ("jsx_expression", all ["\x7b",
          maybe (oneOf [ref "expression", ref "sequence_expression", ref "spread_element"]), "\x7d"]),
       ("_jsx_child", oneOf [ref "jsx_text", ref "html_character_reference", ref "_jsx_element",
          ref "jsx_expression"]),
       ("jsx_opening_element", dynamic (-1) (all [ref "_jsx_start_opening_element", ">"])),
       ("jsx_identifier", lexeme),
       ("_jsx_identifier", oneOf [shownAs "identifier" (ref "jsx_identifier"), ref "identifier"]),
       ("jsx_namespace_name", all [ref "_jsx_identifier", ":", ref "_jsx_identifier"]),
       ("_jsx_element_name", oneOf [
          ref "_jsx_identifier",
          shownAs "member_expression" (ref "nested_identifier"),
          ref "jsx_namespace_name"]),
       ("jsx_closing_element", all ["</", maybe (ref "_jsx_element_name"), ">"]),
       ("jsx_self_closing_element", dynamic (-1) (all [ref "_jsx_start_opening_element", "/>"])),
       ("_jsx_attribute", oneOf [ref "jsx_attribute", ref "jsx_expression"]),
       ("_jsx_attribute_name", oneOf [
          shownAs "property_identifier" (ref "_jsx_identifier"), ref "jsx_namespace_name"]),
       ("jsx_attribute", all [ref "_jsx_attribute_name",
          maybe (all ["=", ref "_jsx_attribute_value"])]),
       ("_jsx_string", oneOf [
          all ["\"", many (oneOf [
            shownAs "string_fragment" (ref "_double_jsx_fragment"),
            ref "html_character_reference"]), "\""],
          all ["'", many (oneOf [
            shownAs "string_fragment" (ref "_single_jsx_fragment"),
            ref "html_character_reference"]), "'"]]),
       ("_double_jsx_fragment", lexeme),
       ("_single_jsx_fragment", lexeme),
       ("_jsx_attribute_value", oneOf [
          shownAs "string" (ref "_jsx_string"), ref "jsx_expression", ref "_jsx_element"])])
  ++
  [("nested_identifier", rank "member" (all [
      oneOf [ref "identifier", shownAs "member_expression" (ref "nested_identifier")],
      ".", shownAs "property_identifier" (ref "identifier")])),
   ("class", rank "literal" (all [many (ref "decorator"), "class",
      maybe (ref "_type_identifier"), maybe (ref "type_parameters"), maybe (ref "class_heritage"),
      ref "class_body"])),
   ("class_declaration", leftRank "declare" (all [many (ref "decorator"), "class",
      ref "_type_identifier", maybe (ref "type_parameters"), maybe (ref "class_heritage"),
      ref "class_body", maybe (ref "_automatic_semicolon")])),
   ("class_heritage", oneOf [
      all [ref "extends_clause", maybe (ref "implements_clause")],
      ref "implements_clause"]),
   ("function_expression", rank "literal" (all [maybe "async", "function",
      maybe (ref "identifier"), ref "_call_signature", ref "statement_block"])),
   ("function_declaration", rightRank "declare" (all [maybe "async", "function",
      ref "identifier", ref "_call_signature", ref "statement_block",
      maybe (ref "_automatic_semicolon")])),
   ("generator_function", rank "literal" (all [maybe "async", "function", "*",
      maybe (ref "identifier"), ref "_call_signature", ref "statement_block"])),
   ("generator_function_declaration", rightRank "declare" (all [maybe "async", "function", "*",
      ref "identifier", ref "_call_signature", ref "statement_block",
      maybe (ref "_automatic_semicolon")])),
   ("arrow_function", all [maybe "async",
      oneOf [
        oneOf [shownAs "identifier" (ref "_reserved_identifier"), ref "identifier"],
        ref "_call_signature"],
      "=>", oneOf [ref "expression", ref "statement_block"]]),
   ("_call_signature", all [maybe (ref "type_parameters"), ref "formal_parameters",
      maybe (oneOf [ref "type_annotation", ref "asserts_annotation",
        ref "type_predicate_annotation"])]),
   ("_formal_parameter", oneOf [ref "required_parameter", ref "optional_parameter"]),
   ("optional_chain", literal "?."),
   ("call_expression", oneOf [
      rank "call" (all [oneOf [ref "expression", ref "import"], maybe (ref "type_arguments"),
        ref "arguments"]),
      rank "template_call" (all [oneOf [ref "primary_expression", ref "new_expression"],
        ref "template_string"]),
      rank "member" (all [ref "primary_expression", "?.", maybe (ref "type_arguments"),
        ref "arguments"])]),
   ("new_expression", rightRank "new" (all ["new", ref "primary_expression",
      maybe (ref "type_arguments"), maybe (ref "arguments")])),
   ("await_expression", rank "unary_void" (all ["await", ref "expression"])),
   ("member_expression", rank "member" (all [
      oneOf [ref "expression", ref "primary_expression", ref "import"],
      oneOf [".", ref "optional_chain"],
      oneOf [ref "private_property_identifier",
        shownAs "property_identifier" (ref "identifier")]])),
   ("subscript_expression", rightRank "member" (all [
      oneOf [ref "expression", ref "primary_expression"],
      maybe (ref "optional_chain"), "[", ref "_expressions", "]"])),
   ("_lhs_expression", oneOf [
      ref "member_expression", ref "subscript_expression", ref "_identifier",
      shownAs "identifier" (ref "_reserved_identifier"), ref "_destructuring_pattern",
      ref "non_null_expression"]),
   ("assignment_expression", rightRank "assign" (all [maybe "using",
      oneOf [ref "parenthesized_expression", ref "_lhs_expression"], "=", ref "expression"])),
   ("_augmented_assignment_lhs", oneOf [
      ref "member_expression", ref "subscript_expression",
      shownAs "identifier" (ref "_reserved_identifier"), ref "identifier",
      ref "parenthesized_expression", ref "non_null_expression"]),
   ("augmented_assignment_expression", rightRank "assign" (all [
      ref "_augmented_assignment_lhs",
      oneOf ["+=", "-=", "*=", "/=", "%=", "^=", "&=", "|=", ">>=", ">>>=", "<<=", "**=", "&&=",
        "||=", "??="],
      ref "expression"])),
   ("_initializer", all ["=", ref "expression"]),
   ("_destructuring_pattern", oneOf [ref "object_pattern", ref "array_pattern"]),
   ("spread_element", all ["...", ref "expression"]),
   ("ternary_expression", rightRank "ternary" (all [ref "expression",
      shownAsToken "?" (ref "_ternary_qmark"), ref "expression", ":", ref "expression"])),
   ("binary_expression", oneOf [
      binary "&&" "logical_and", binary "||" "logical_or", binary ">>" "binary_shift",
      binary ">>>" "binary_shift", binary "<<" "binary_shift", binary "&" "bitwise_and",
      binary "^" "bitwise_xor", binary "|" "bitwise_or", binary "+" "binary_plus",
      binary "-" "binary_plus", binary "*" "binary_times", binary "/" "binary_times",
      binary "%" "binary_times",
      rightRank "binary_exp" (all [ref "expression", "**", ref "expression"]),
      binary "<" "binary_relation", binary "<=" "binary_relation", binary "==" "binary_equality",
      binary "===" "binary_equality", binary "!=" "binary_equality",
      binary "!==" "binary_equality", binary ">=" "binary_relation", binary ">" "binary_relation",
      binary "??" "ternary", binary "instanceof" "binary_relation",
      leftRank "binary_relation" (all [
        oneOf [ref "expression", ref "private_property_identifier"], "in", ref "expression"])]),
   ("unary_expression", leftRank "unary_void" (all [
      oneOf ["!", "~", "-", "+", "typeof", "void", "delete"], ref "expression"])),
   ("update_expression", left (oneOf [
      all [ref "expression", oneOf ["++", "--"]],
      all [oneOf ["++", "--"], ref "expression"]])),
   ("sequence_expression", right (list1 (ref "expression"))),
   ("string", oneOf [
      all ["\"", many (oneOf [
        shownAs "string_fragment" (ref "_double_fragment"), ref "escape_sequence"]), "\""],
      all ["'", many (oneOf [
        shownAs "string_fragment" (ref "_single_fragment"), ref "escape_sequence"]), "'"]]),
   ("_double_fragment", lexeme),
   ("_single_fragment", lexeme),
   ("escape_sequence", lexeme),
   ("comment", lexeme),
   ("template_string", all ["\x60",
      many (oneOf [shownAs "string_fragment" (ref "_template_chars"), ref "escape_sequence",
        ref "template_substitution"]),
      "\x60"]),
   ("template_substitution", all ["$\x7b", ref "_expressions", "\x7d"]),
   ("regex", all ["/", ref "regex_pattern", ref "_regex_close", maybe (ref "regex_flags")]),
   ("regex_pattern", lexeme),
   ("_regex_close", lexeme),
   ("regex_flags", lexeme),
   ("number", lexeme),
   ("_identifier", oneOf [ref "undefined", ref "identifier"]),
   ("identifier", lexeme),
   ("private_property_identifier", lexeme),
   ("meta_property", oneOf [all ["new", ".", "target"], all ["import", ".", "meta"]]),
   ("this", literal "this"),
   ("super", literal "super"),
   ("true", literal "true"),
   ("false", literal "false"),
   ("null", literal "null"),
   ("undefined", literal "undefined"),
   ("arguments", all ["(", list (maybe (oneOf [ref "expression", ref "spread_element"])), ")"]),
   ("decorator", all ["@",
      oneOf [
        ref "identifier",
        shownAs "member_expression" (ref "decorator_member_expression"),
        shownAs "call_expression" (ref "decorator_call_expression"),
        shownAs "parenthesized_expression" (ref "decorator_parenthesized_expression")]]),
   ("decorator_member_expression", rank "member" (all [
      oneOf [ref "identifier", shownAs "member_expression" (ref "decorator_member_expression")],
      ".", shownAs "property_identifier" (ref "identifier")])),
   ("decorator_call_expression", rank "call" (all [
      oneOf [ref "identifier", shownAs "member_expression" (ref "decorator_member_expression")],
      maybe (ref "type_arguments"), ref "arguments"])),
   ("class_body", all ["\x7b",
      many (oneOf [
        ref "decorator",
        all [ref "method_definition", maybe (ref "_semicolon")],
        all [ref "method_signature", oneOf [ref "_function_signature_automatic_semicolon", ","]],
        ref "class_static_block",
        all [
          oneOf [ref "abstract_method_signature", ref "index_signature", ref "method_signature",
            ref "public_field_definition"],
          oneOf [ref "_semicolon", ","]],
        ";"]),
      "\x7d"]),
   ("formal_parameters", all ["(",
      maybe (all [list1 (ref "_formal_parameter"), maybe ","]), ")"]),
   ("class_static_block", all ["static", maybe (ref "_automatic_semicolon"),
      ref "statement_block"]),
   ("pattern", dynamic (-1) (oneOf [ref "_lhs_expression", ref "rest_pattern"])),
   ("rest_pattern", right (all ["...", ref "_lhs_expression"])),
   ("method_definition", left (all [
      maybe (ref "accessibility_modifier"), maybe "static", maybe (ref "override_modifier"),
      maybe "readonly", maybe "async", maybe (oneOf ["get", "set", "*"]),
      ref "_property_name", maybe "?", ref "_call_signature", ref "statement_block"])),
   ("pair", all [ref "_property_name", ":", ref "expression"]),
   ("pair_pattern", all [ref "_property_name", ":",
      oneOf [ref "pattern", ref "assignment_pattern"]]),
   ("_property_name", oneOf [
      shownAs "property_identifier" (oneOf [ref "identifier", ref "_reserved_identifier"]),
      ref "private_property_identifier", ref "string", ref "number",
      ref "computed_property_name"]),
   ("computed_property_name", all ["[", ref "expression", "]"]),
   ("_reserved_identifier", oneOf [
      "declare", "namespace", "type", "public", "private", "protected", "override", "readonly",
      "module", "any", "number", "boolean", "string", "symbol", "export", "object", "new",
      "get", "set", "async", "static", "let"]),
   ("_semicolon", oneOf [ref "_automatic_semicolon", ";"])]

/-! ### Declarations and types -/

def typeRules (dialect : Dialect) : List (String × Rule) :=
  [("public_field_definition", all [many (ref "decorator"),
      maybe (oneOf [
        all ["declare", maybe (ref "accessibility_modifier")],
        all [ref "accessibility_modifier", maybe "declare"]]),
      oneOf [
        all [maybe "static", maybe (ref "override_modifier"), maybe "readonly"],
        all [maybe "abstract", maybe "readonly"],
        all [maybe "readonly", maybe "abstract"],
        maybe "accessor"],
      ref "_property_name", maybe (oneOf ["?", "!"]), maybe (ref "type_annotation"),
      maybe (ref "_initializer")])]
  ++ (match dialect with
    | .typescript => []
    | .tsx =>
      [("_jsx_start_opening_element", all ["<",
          maybe (all [
            oneOf [
              oneOf [ref "_jsx_identifier", ref "jsx_namespace_name"],
              all [
                oneOf [ref "identifier", shownAs "member_expression" (ref "nested_identifier")],
                maybe (ref "type_arguments")]],
            many (ref "_jsx_attribute")])])])
  ++
  [("_import_identifier", oneOf [ref "identifier", shownAs "identifier" "type"]),
   ("non_null_expression", leftRank "unary" (all [ref "expression", "!"])),
   ("method_signature", all [
      maybe (ref "accessibility_modifier"), maybe "static", maybe (ref "override_modifier"),
      maybe "readonly", maybe "async", maybe (oneOf ["get", "set", "*"]),
      ref "_property_name", maybe "?", ref "_call_signature"]),
   ("abstract_method_signature", all [
      maybe (ref "accessibility_modifier"), "abstract", maybe (ref "override_modifier"),
      maybe (oneOf ["get", "set", "*"]), ref "_property_name", maybe "?",
      ref "_call_signature"]),
   ("function_signature", all [maybe "async", "function", ref "identifier",
      ref "_call_signature",
      oneOf [ref "_semicolon", ref "_function_signature_automatic_semicolon"]]),
   ("decorator_parenthesized_expression", all ["(",
      oneOf [
        ref "identifier",
        shownAs "member_expression" (ref "decorator_member_expression"),
        shownAs "call_expression" (ref "decorator_call_expression")],
      ")"]),
   ("type_assertion", leftRank "unary" (all [ref "type_arguments", ref "expression"])),
   ("as_expression", leftRank "binary" (all [ref "expression", "as",
      oneOf ["const", ref "type"]])),
   ("satisfies_expression", leftRank "binary" (all [ref "expression", "satisfies",
      ref "type"])),
   ("instantiation_expression", rank "instantiation" (all [ref "expression",
      ref "type_arguments"])),
   ("import_require_clause", all [ref "identifier", "=", "require", "(", ref "string", ")"]),
   ("extends_clause", all ["extends", list1 (ref "_extends_clause_single")]),
   ("_extends_clause_single", rank "extends" (all [ref "expression",
      maybe (ref "type_arguments")])),
   ("implements_clause", all ["implements", list1 (ref "type")]),
   ("ambient_declaration", all ["declare",
      oneOf [
        ref "declaration",
        all ["global", ref "statement_block"],
        all ["module", ".", shownAs "property_identifier" (ref "identifier"), ":", ref "type",
          ref "_semicolon"]]]),
   ("abstract_class_declaration", rank "declare" (all [many (ref "decorator"), "abstract",
      "class", ref "_type_identifier", maybe (ref "type_parameters"),
      maybe (ref "class_heritage"), ref "class_body"])),
   ("module", all ["module", ref "_module"]),
   ("internal_module", all ["namespace", ref "_module"]),
   ("_module", right (all [
      oneOf [ref "string", ref "identifier", ref "nested_identifier"],
      maybe (ref "statement_block")])),
   ("import_alias", all ["import", ref "identifier", "=",
      oneOf [ref "identifier", ref "nested_identifier"], ref "_semicolon"]),
   ("nested_type_identifier", rank "member" (all [
      oneOf [ref "identifier", ref "nested_identifier"], ".", ref "_type_identifier"])),
   ("interface_declaration", all ["interface", field "name" (ref "_type_identifier"),
      field "type_parameters" (maybe (ref "type_parameters")),
      maybe (ref "extends_type_clause"),
      field "body" (shownAs "interface_body" (ref "object_type"))]),
   ("extends_type_clause", all ["extends",
      list1 (oneOf [ref "_type_identifier", ref "nested_type_identifier", ref "generic_type"])]),
   ("enum_declaration", all [maybe "const", "enum", ref "identifier", ref "enum_body"]),
   ("enum_body", all ["\x7b",
      maybe (all [list1 (oneOf [ref "_property_name", ref "enum_assignment"]), maybe ","]),
      "\x7d"]),
   ("enum_assignment", all [ref "_property_name", ref "_initializer"]),
   ("type_alias_declaration", all ["type", ref "_type_identifier",
      maybe (ref "type_parameters"), "=", ref "type", ref "_semicolon"]),
   ("accessibility_modifier", oneOf ["public", "private", "protected"]),
   ("override_modifier", literal "override"),
   ("required_parameter", all [ref "_parameter_name", maybe (ref "type_annotation"),
      maybe (ref "_initializer")]),
   ("optional_parameter", all [ref "_parameter_name", "?", maybe (ref "type_annotation"),
      maybe (ref "_initializer")]),
   ("_parameter_name", all [many (ref "decorator"), maybe (ref "accessibility_modifier"),
      maybe (ref "override_modifier"), maybe "readonly",
      oneOf [ref "pattern", ref "this"]]),
   ("omitting_type_annotation", all ["-?:", ref "type"]),
   ("adding_type_annotation", all ["+?:", ref "type"]),
   ("opting_type_annotation", all ["?:", ref "type"]),
   ("type_annotation", all [":", ref "type"]),
   ("_type_query_member_expression_in_type_annotation", all [
      oneOf [
        ref "import",
        shownAs "member_expression" (ref "_type_query_member_expression_in_type_annotation"),
        shownAs "call_expression" (ref "_type_query_call_expression_in_type_annotation")],
      ".",
      oneOf [ref "private_property_identifier",
        shownAs "property_identifier" (ref "identifier")]]),
   ("_type_query_call_expression_in_type_annotation", all [
      oneOf [
        ref "import",
        shownAs "member_expression" (ref "_type_query_member_expression_in_type_annotation")],
      ref "arguments"]),
   ("asserts", all ["asserts", oneOf [ref "type_predicate", ref "identifier", ref "this"]]),
   ("asserts_annotation", all [":", ref "asserts"]),
   ("type", oneOf [
      ref "primary_type", ref "function_type", ref "readonly_type", ref "constructor_type",
      ref "infer_type",
      rankLevel (-1)
        (shownAs "member_expression" (ref "_type_query_member_expression_in_type_annotation")),
      rankLevel (-1)
        (shownAs "call_expression" (ref "_type_query_call_expression_in_type_annotation"))]),
   ("tuple_parameter", all [oneOf [ref "identifier", ref "rest_pattern"],
      ref "type_annotation"]),
   ("optional_tuple_parameter", all [ref "identifier", "?", ref "type_annotation"]),
   ("optional_type", all [ref "type", "?"]),
   ("rest_type", all ["...", ref "type"]),
   ("_tuple_type_member", oneOf [
      shownAs "required_parameter" (ref "tuple_parameter"),
      shownAs "optional_parameter" (ref "optional_tuple_parameter"),
      ref "optional_type", ref "rest_type", ref "type"]),
   ("constructor_type", left (all [maybe "abstract", "new", maybe (ref "type_parameters"),
      ref "formal_parameters", "=>", ref "type"])),
   ("primary_type", oneOf [
      ref "parenthesized_type", ref "predefined_type", ref "_type_identifier",
      ref "nested_type_identifier", ref "generic_type", ref "object_type", ref "array_type",
      ref "tuple_type", ref "flow_maybe_type", ref "type_query", ref "index_type_query",
      shownAs "this_type" (ref "this"), ref "existential_type", ref "literal_type",
      ref "lookup_type", ref "conditional_type", ref "template_literal_type",
      ref "intersection_type", ref "union_type", "const"]),
   ("template_type", all ["$\x7b", oneOf [ref "primary_type", ref "infer_type"], "\x7d"]),
   ("template_literal_type", all ["\x60",
      many (oneOf [shownAs "string_fragment" (ref "_template_chars"), ref "template_type"]),
      "\x60"]),
   ("infer_type", right (all ["infer", ref "_type_identifier",
      maybe (all ["extends", ref "type"])])),
   ("conditional_type", right (all [ref "type", "extends", ref "type", "?", ref "type", ":",
      ref "type"])),
   ("generic_type", rank "call" (all [
      oneOf [ref "_type_identifier", ref "nested_type_identifier"], ref "type_arguments"])),
   ("type_predicate", all [
      oneOf [ref "identifier", ref "this", shownAs "identifier" (ref "predefined_type")],
      "is", ref "type"]),
   ("type_predicate_annotation", all [":", ref "type_predicate"]),
   ("_type_query_member_expression", all [
      oneOf [
        ref "identifier", ref "this",
        shownAs "subscript_expression" (ref "_type_query_subscript_expression"),
        shownAs "member_expression" (ref "_type_query_member_expression"),
        shownAs "call_expression" (ref "_type_query_call_expression")],
      oneOf [".", "?."],
      oneOf [ref "private_property_identifier",
        shownAs "property_identifier" (ref "identifier")]]),
   ("_type_query_subscript_expression", all [
      oneOf [
        ref "identifier", ref "this",
        shownAs "subscript_expression" (ref "_type_query_subscript_expression"),
        shownAs "member_expression" (ref "_type_query_member_expression"),
        shownAs "call_expression" (ref "_type_query_call_expression")],
      maybe "?.", "[",
      oneOf [ref "predefined_type", ref "string", ref "number"], "]"]),
   ("_type_query_call_expression", all [
      oneOf [
        ref "import", ref "identifier",
        shownAs "member_expression" (ref "_type_query_member_expression"),
        shownAs "subscript_expression" (ref "_type_query_subscript_expression")],
      ref "arguments"]),
   ("_type_query_instantiation_expression", all [
      oneOf [
        ref "import", ref "identifier",
        shownAs "member_expression" (ref "_type_query_member_expression"),
        shownAs "subscript_expression" (ref "_type_query_subscript_expression")],
      ref "type_arguments"]),
   ("type_query", right (all ["typeof",
      oneOf [
        shownAs "subscript_expression" (ref "_type_query_subscript_expression"),
        shownAs "member_expression" (ref "_type_query_member_expression"),
        shownAs "call_expression" (ref "_type_query_call_expression"),
        shownAs "instantiation_expression" (ref "_type_query_instantiation_expression"),
        ref "identifier", ref "this"]])),
   ("index_type_query", all ["keyof", ref "primary_type"]),
   ("lookup_type", all [ref "primary_type", "[", ref "type", "]"]),
   ("mapped_type_clause", all [ref "_type_identifier", "in", ref "type",
      maybe (all ["as", ref "type"])]),
   ("literal_type", oneOf [
      shownAs "unary_expression" (ref "_number"), ref "number", ref "string", ref "true",
      ref "false", ref "null", ref "undefined"]),
   ("_number", ranked (.level 1) (some .left) (all [oneOf ["-", "+"], ref "number"])),
   ("existential_type", literal "*"),
   ("flow_maybe_type", right (all ["?", ref "primary_type"])),
   ("parenthesized_type", all ["(", ref "type", ")"]),
   ("predefined_type", oneOf ["any", "number", "boolean", "string", "symbol",
      shownAsToken "unique symbol" (all ["unique", "symbol"]), "void", "unknown", "string",
      "never", "object"]),
   ("type_arguments", all ["<", list1 (ref "type"), maybe ",", ">"]),
   ("object_type", all [oneOf ["\x7b", "\x7b|"],
      maybe (all [
        maybe (oneOf [",", ";"]),
        sepBy1 (oneOf [",", ref "_semicolon"]) (oneOf [
          ref "export_statement", ref "property_signature", ref "call_signature",
          ref "construct_signature", ref "index_signature", ref "method_signature"]),
        maybe (oneOf [",", ref "_semicolon"])]),
      oneOf ["\x7d", "|\x7d"]]),
   ("call_signature", ref "_call_signature"),
   ("property_signature", all [maybe (ref "accessibility_modifier"), maybe "static",
      maybe (ref "override_modifier"), maybe "readonly",
      field "name" (ref "_property_name"), maybe "?",
      field "type" (maybe (ref "type_annotation"))]),
   ("type_parameters", all ["<", list1 (ref "type_parameter"), maybe ",", ">"]),
   ("type_parameter", all [maybe "const", ref "_type_identifier", maybe (ref "constraint"),
      maybe (ref "default_type")]),
   ("default_type", all ["=", ref "type"]),
   ("constraint", all [oneOf ["extends", ":"], ref "type"]),
   ("construct_signature", all [maybe "abstract", "new", maybe (ref "type_parameters"),
      ref "formal_parameters", maybe (ref "type_annotation")]),
   ("index_signature", all [
      maybe (all [maybe (oneOf ["-", "+"]), "readonly"]), "[",
      oneOf [
        all [oneOf [ref "identifier", shownAs "identifier" (ref "_reserved_identifier")],
          ":", ref "type"],
        ref "mapped_type_clause"],
      "]",
      oneOf [ref "type_annotation", ref "omitting_type_annotation",
        ref "adding_type_annotation", ref "opting_type_annotation"]]),
   ("array_type", all [ref "primary_type", "[", "]"]),
   ("tuple_type", all ["[", list (ref "_tuple_type_member"), maybe ",", "]"]),
   ("readonly_type", all ["readonly", ref "type"]),
   ("union_type", left (all [maybe (ref "type"), "|", ref "type"])),
   ("intersection_type", left (all [maybe (ref "type"), "&", ref "type"])),
   ("function_type", left (all [maybe (ref "type_parameters"), ref "formal_parameters", "=>",
      oneOf [ref "type", ref "asserts", ref "type_predicate"]])),
   ("_type_identifier", shownAs "type_identifier" (ref "identifier"))]

def contextualTokens (dialect : Dialect) : List (String × Rule) :=
  [("_automatic_semicolon", lexeme),
   ("_template_chars", lexeme),
   ("_ternary_qmark", lexeme),
   ("html_comment", lexeme)]
  ++ (match dialect with
    | .typescript => []
    | .tsx => [("jsx_text", lexeme)])
  ++ [("_function_signature_automatic_semicolon", lexeme)]

/-! ### Ranks -/

/-- The orders of ranks and rules, each from the strongest to the weakest. -/
def orderings : List (List Ranking) :=
  [[.rank "member", .rank "template_call", .rank "call", .rule "update_expression",
      .rank "unary_void", .rank "binary_exp", .rank "binary_times", .rank "binary_plus",
      .rank "binary_shift", .rank "binary_compare", .rank "binary_relation",
      .rank "binary_equality", .rank "bitwise_and", .rank "bitwise_xor", .rank "bitwise_or",
      .rank "logical_and", .rank "logical_or", .rank "ternary", .rule "sequence_expression",
      .rule "arrow_function"],
   [.rank "assign", .rule "primary_expression"],
   [.rank "member", .rank "template_call", .rank "new", .rank "call", .rule "expression"],
   [.rank "declare", .rank "literal"],
   [.rule "primary_expression", .rule "statement_block", .rank "object"],
   [.rule "meta_property", .rule "import"],
   [.rule "import_statement", .rule "import"],
   [.rule "export_statement", .rule "primary_expression"],
   [.rule "lexical_declaration", .rule "primary_expression"],
   [.rank "call", .rank "instantiation", .rank "unary", .rank "binary",
      .rule "await_expression", .rule "arrow_function"],
   [.rank "extends", .rank "instantiation"],
   [.rule "intersection_type", .rule "union_type", .rule "conditional_type",
      .rule "function_type", .rank "binary", .rule "type_predicate", .rule "readonly_type"],
   [.rule "mapped_type_clause", .rule "primary_expression"],
   [.rule "accessibility_modifier", .rule "primary_expression"],
   [.rank "unary_void", .rule "expression"],
   [.rule "extends_clause", .rule "primary_expression"],
   [.rank "unary", .rank "assign"],
   [.rank "declare", .rule "expression"],
   [.rule "predefined_type", .rule "unary_expression"],
   [.rule "type", .rule "flow_maybe_type"],
   [.rule "tuple_type", .rule "array_type", .rule "pattern", .rule "type"],
   [.rule "readonly_type", .rule "pattern"],
   [.rule "readonly_type", .rule "primary_expression"],
   [.rule "type_query", .rule "subscript_expression", .rule "expression"],
   [.rule "type_query", .rule "_type_query_subscript_expression"],
   [.rule "nested_type_identifier", .rule "generic_type", .rule "primary_type",
      .rule "lookup_type", .rule "index_type_query", .rule "type"],
   [.rule "as_expression", .rule "satisfies_expression", .rule "primary_type"],
   [.rule "_type_query_member_expression", .rule "member_expression"],
   [.rule "member_expression", .rule "_type_query_member_expression_in_type_annotation"],
   [.rule "_type_query_member_expression", .rule "primary_expression"],
   [.rule "_type_query_subscript_expression", .rule "subscript_expression"],
   [.rule "_type_query_subscript_expression", .rule "primary_expression"],
   [.rule "_type_query_call_expression", .rule "primary_expression"],
   [.rule "_type_query_instantiation_expression", .rule "primary_expression"],
   [.rule "type_query", .rule "primary_expression"],
   [.rule "override_modifier", .rule "primary_expression"],
   [.rule "decorator_call_expression", .rule "decorator"],
   [.rule "literal_type", .rule "pattern"],
   [.rule "predefined_type", .rule "pattern"],
   [.rule "call_expression", .rule "_type_query_call_expression"],
   [.rule "call_expression", .rule "_type_query_call_expression_in_type_annotation"],
   [.rule "new_expression", .rule "primary_expression"],
   [.rule "meta_property", .rule "primary_expression"],
   [.rule "construct_signature", .rule "_property_name"]]

def Dialect.grammar (dialect : Dialect) : Grammar.Definition :=
  { rules := moduleRules ++ expressionRules dialect ++ typeRules dialect ++ contextualTokens dialect
    expanded := ["_expressions", "_semicolon", "_identifier", "_reserved_identifier",
      "_jsx_attribute", "_jsx_element_name", "_jsx_child", "_jsx_element", "_jsx_attribute_name",
      "_jsx_attribute_value", "_jsx_identifier", "_lhs_expression", "_type_identifier",
      "_jsx_start_opening_element"]
    transparent := ["statement", "declaration", "expression", "primary_expression", "pattern",
      "type", "primary_type"]
    orderings
    extras := ["comment", "html_comment"]
    word := "identifier" }

end TypeGuards.TypeScript
