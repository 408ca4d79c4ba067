import Script.Proofs.JsonText
import Script.Proofs.ListAtoms
import Script.SExpr.Equality

/-!
# JSON texts determine programs

Two accepted sources whose number tokens all fit a word have the same compact JSON text
only if they are read into the same tree, or in list mode into the same expression.

The text is that of one JSON value, and this value is that of one program: a tree shows
the type of each node, and among the atoms of a list, which are all written as JSON
strings, only a string of the program starts with a quote.
-/

namespace Script

/-! ## JSON values determine trees -/

namespace Tree

theorem exists_toJson_eq (tree : Tree) :
    ∃ fields, tree.toJson = .object (("type", .string tree.typeName) :: fields) := by
  cases tree <;> exact ⟨_, rfl⟩

/-- Nodes of different types have different objects. -/
theorem toJson_inj_of_typeName {tree other : Tree} (apart : tree.typeName ≠ other.typeName) :
    tree.toJson = other.toJson ↔ tree = other := by
  rcases exists_toJson_eq tree with ⟨fields, toJson_eq⟩
  rcases exists_toJson_eq other with ⟨otherFields, otherToJson_eq⟩
  constructor
  · intro same
    rw [toJson_eq, otherToJson_eq] at same
    simp only [Json.object.injEq, List.cons.injEq, Prod.mk.injEq, Json.string.injEq] at same
    exact absurd same.1.2 apart
  · rintro rfl
    rfl

/-- An absent part is written as `null`, and no node is. -/
theorem toJson_ne_null (tree : Tree) : tree.toJson ≠ .null := by
  rcases exists_toJson_eq tree with ⟨fields, toJson_eq⟩
  rw [toJson_eq]
  nofun

mutual

-- Nodes of other types are told apart by their names, so parts of one type are compared.
theorem toJson_inj : ∀ tree other : Tree, tree.toJson = other.toJson ↔ tree = other
  | .program items, other | .block items, other | .declarations items, other => by
      cases other <;> first
        | (refine toJson_inj_of_typeName ?_; simp [typeName]; done)
        | simp [toJson, listToJson_inj items]
  | .empty, other | .identifier _, other | .number _, other | .string _, other
  | .boolean _, other | .null, other => by
      cases other <;> first
        | (refine toJson_inj_of_typeName ?_; simp [typeName]; done)
        | simp [toJson]
  | .expression inner, other | .unary _ inner, other => by
      cases other <;> first
        | (refine toJson_inj_of_typeName ?_; simp [typeName]; done)
        | simp [toJson, toJson_inj inner]
  | .declaration id init, other => by
      cases other <;> first
        | (refine toJson_inj_of_typeName ?_; simp [typeName]; done)
        | simp [toJson, toJson_inj id, optionToJson_inj init]
  | .conditional test consequent alternate, other => by
      cases other <;> first
        | (refine toJson_inj_of_typeName ?_; simp [typeName]; done)
        | simp [toJson, toJson_inj test, toJson_inj consequent, optionToJson_inj alternate]
  | .whileLoop first second, other | .doWhileLoop first second, other
  | .assignment _ first second, other | .logical _ first second, other
  | .binary _ first second, other | .member _ first second, other => by
      cases other <;> first
        | (refine toJson_inj_of_typeName ?_; simp [typeName]; done)
        | simp [toJson, toJson_inj first, toJson_inj second]
  | .forLoop init test update body, other => by
      cases other <;> first
        | (refine toJson_inj_of_typeName ?_; simp [typeName]; done)
        | simp [toJson, optionToJson_inj init, optionToJson_inj test, optionToJson_inj update,
            toJson_inj body]
  | .function name params body, other => by
      cases other <;> first
        | (refine toJson_inj_of_typeName ?_; simp [typeName]; done)
        | simp [toJson, toJson_inj name, listToJson_inj params, toJson_inj body]
  | .returning argument, other => by
      cases other <;> first
        | (refine toJson_inj_of_typeName ?_; simp [typeName]; done)
        | simp [toJson, optionToJson_inj argument]

theorem listToJson_inj : ∀ trees others : List Tree,
    listToJson trees = listToJson others ↔ trees = others
  | [], others => by
      cases others <;> simp [listToJson]
  | first :: rest, others => by
      cases others <;> simp [listToJson, toJson_inj first, listToJson_inj rest]

theorem optionToJson_inj : ∀ part other : Option Tree,
    optionToJson part = optionToJson other ↔ part = other
  | none, none => by simp
  | none, some other => by simp [optionToJson, (toJson_ne_null other).symm]
  | some node, none => by simp [optionToJson, toJson_ne_null node]
  | some node, some other => by simp [optionToJson, toJson_inj node]

end

end Tree

/-! ## JSON values determine list expressions -/

namespace SExpr

mutual

/-- Expressions whose symbols are words have the same JSON value only if they are the same. -/
theorem eq_of_toJson : ∀ {expression other : SExpr}, expression.isWorded = true →
    other.isWorded = true → expression.toJson = other.toJson → expression = other
  | .string value, other, _, otherWorded, same => by
      cases other with
      | string otherValue =>
          have sameText : (quote value).toList ++ [] = (quote otherValue).toList ++ [] :=
            congrArg (String.toList · ++ []) (Json.string.inj same)
          rw [(eq_of_quote sameText).1]
      | symbol name =>
          rw [isWorded_symbol] at otherWorded
          exact absurd (Json.string.inj same).symm (ne_quote_of_isWord otherWorded value)
      | _ => simp [toJson] at same
  | .symbol name, other, worded, _, same => by
      cases other with
      | string otherValue =>
          rw [isWorded_symbol] at worded
          exact absurd (Json.string.inj same) (ne_quote_of_isWord worded otherValue)
      | _ => simp_all [toJson]
  | .list items, other, worded, otherWorded, same => by
      cases other with
      | list others =>
          rw [isWorded_list, List.all_eq_true] at worded otherWorded
          exact congrArg list (eq_of_listToJson worded otherWorded (Json.array.inj same))
      | _ => simp [toJson] at same
  | .number _, other, _, _, same | .boolean _, other, _, _, same | .nil, other, _, _, same => by
      cases other <;> simp_all [toJson]

theorem eq_of_listToJson : ∀ {items others : List SExpr},
    (∀ item ∈ items, item.isWorded = true) → (∀ item ∈ others, item.isWorded = true) →
      listToJson items = listToJson others → items = others
  | [], others, _, _, same => by
      cases others <;> simp_all [listToJson]
  | item :: items, others, worded, otherWorded, same => by
      cases others with
      | nil => simp [listToJson] at same
      | cons other others =>
          rw [List.forall_mem_cons] at worded otherWorded
          rw [listToJson, listToJson, List.cons.injEq] at same
          rw [eq_of_toJson worded.1 otherWorded.1 same.1,
            eq_of_listToJson worded.2 otherWorded.2 same.2]

end

end SExpr

/-! ## Texts determine outputs -/

/-- Outputs of one mode that come from sources have the same JSON value only if they are the same. -/
theorem eq_of_output_toJson {mode : Mode} {first second : String} {file otherFile : Option String}
    {output other : Output} (accepts : parse mode first file = .ok output)
    (acceptsOther : parse mode second otherFile = .ok other)
    (same : output.toJson = other.toJson) : output = other := by
  rcases exists_tree_of_parse accepts with ⟨tree, acceptsTree, rfl⟩
  rcases exists_tree_of_parse acceptsOther with ⟨otherTree, acceptsOtherTree, rfl⟩
  cases mode with
  | tree => exact congrArg Output.tree ((Tree.toJson_inj tree otherTree).1 same)
  | list =>
      exact congrArg Output.list (SExpr.eq_of_toJson (isWorded_of_parse acceptsTree)
        (isWorded_of_parse acceptsOtherTree) same)

/-- If the number tokens of a source fit a word, then its output has exact integers only. -/
theorem exact_of_numbersBelow {mode : Mode} {source : String} {file : Option String}
    {output : Output} (accepts : parse mode source file = .ok output)
    (fit : NumbersBelow UInt64.size source file) : output.toJson.Exact := by
  rcases numerals_of_parse accepts with ⟨tokens, lexes, numerals_eq⟩
  intro number member
  rw [numerals_eq, List.mem_map] at member
  rcases member with ⟨token, isNumber, rfl⟩
  exact ⟨_, if_pos (fit tokens lexes token isNumber)⟩

/--
In either mode, two accepted sources whose number tokens all fit a word have the same
compact JSON text only if they have the same tree, or the same list expression.
-/
theorem json_text_determines_output (mode : Mode) {first second : String}
    {file otherFile : Option String} {output other : Output}
    (accepts : parse mode first file = .ok output)
    (acceptsOther : parse mode second otherFile = .ok other)
    (fit : NumbersBelow UInt64.size first file)
    (otherFit : NumbersBelow UInt64.size second otherFile)
    (same : output.toJson.compact = other.toJson.compact) : output = other :=
  eq_of_output_toJson accepts acceptsOther
    (Json.eq_of_compact (exact_of_numbersBelow accepts fit)
      (exact_of_numbersBelow acceptsOther otherFit) same)

/-- The largest word with and without a leading zero, next to a string of the same digits. -/
theorem padded_number_determined :
    ∃ output other, parse .list "n=18446744073709551615-'1';" none = .ok output ∧
      parse .list "n = 018446744073709551615 - \"1\" ;" none = .ok other ∧
        NumbersBelow UInt64.size "n=18446744073709551615-'1';" none ∧
          NumbersBelow UInt64.size "n = 018446744073709551615 - \"1\" ;" none ∧
            output.toJson.compact = other.toJson.compact ∧ output = other := by
  have answer : (Parser.parse "n=18446744073709551615-'1';" none : Except Diagnostic SExpr) =
      .ok (.begin [.form "=" [.symbol "n",
        .form "-" [.number (.integer 18446744073709551615), .string "1"]]]) := by
    decide +kernel
  have otherAnswer : (Parser.parse "n = 018446744073709551615 - \"1\" ;" none :
      Except Diagnostic SExpr) =
        .ok (.begin [.form "=" [.symbol "n",
          .form "-" [.number (.integer 18446744073709551615), .string "1"]]]) := by
    decide +kernel
  have fit : NumbersBelow UInt64.size "n=18446744073709551615-'1';" none :=
    numbersBelow_of_all (by decide +kernel)
  have otherFit : NumbersBelow UInt64.size "n = 018446744073709551615 - \"1\" ;" none :=
    numbersBelow_of_all (by decide +kernel)
  have accepts := congrArg (Except.map Output.list) answer
  have acceptsOther := congrArg (Except.map Output.list) otherAnswer
  exact ⟨_, _, accepts, acceptsOther, fit, otherFit, rfl,
    json_text_determines_output .list accepts acceptsOther fit otherFit rfl⟩

end Script
