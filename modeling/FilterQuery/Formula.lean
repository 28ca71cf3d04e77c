/-
**Formulas: the syntax trees of filters.**

A filter reads as a tree of comparisons, calls, groups and negations that are joined by logical
operators.  The text of a formula is defined by recursion on the tree, without regard to how a
predicate is written piece by piece.

Main definitions:

* `Connective` — the two operators that join expressions;
* `Formula` — the trees;
* `Formula.args` — the values in the order of the source;
* `Formula.text` — the text, with placeholders numbered from a given one on;
* `Formula.predicate` — text and values together.
-/

import FilterQuery.Node

set_option relaxedAutoImplicit false
set_option autoImplicit false

namespace FilterQuery

/-- An operator that joins two expressions. -/
inductive Connective where
  | conjunction
  | disjunction
deriving DecidableEq

/-- The kind of the word of a connective. -/
def Connective.kind : Connective → Kind
  | .conjunction => .conjunction
  | .disjunction => .disjunction

/-- The output text of a connective. -/
def Connective.symbol : Connective → String
  | .conjunction => "&&"
  | .disjunction => "||"

/-- The syntax tree of a filter. -/
inductive Formula where
  /-- A boolean field by itself. -/
  | flag (f : Field)
  /-- A field compared to one constant. -/
  | compared (f : Field) (operator : Kind) (c : Constant)
  /-- A field looked up in a list of constants. -/
  | listed (f : Field) (cs : List Constant)
  /-- A string function of a field and a value. -/
  | call (function : Kind) (f : Field) (v : Value)
  /-- A formula in parentheses. -/
  | group (φ : Formula)
  /-- The negation of a formula in parentheses. -/
  | negation (φ : Formula)
  /-- An expression joined with the rest of a filter. -/
  | join (φ : Formula) (c : Connective) (ψ : Formula)

/-- The value of a constant that is not null. -/
def Constant.value? : Constant → Option Value
  | .null => none
  | .value v => some v

namespace Formula

/-! ### Values -/

/-- The values of the constants that are not null, in the order of the source. -/
def args : Formula → List Value
  | .flag _ => []
  | .compared _ _ c => c.value?.toList
  | .listed _ cs => cs.filterMap Constant.value?
  | .call _ _ v => [v]
  | .group φ => φ.args
  | .negation φ => φ.args
  | .join φ _ ψ => φ.args ++ ψ.args

/-! ### Text -/

/-- The text of a constant whose placeholder, if it has one, is the `k`-th. -/
def constantText (k : Nat) : Constant → String
  | .null => "null"
  | .value _ => Predicate.placeholder k

/-- The texts of constants with placeholders from the `k`-th on. -/
def constantTexts (k : Nat) : List Constant → List String
  | [] => []
  | c :: cs => constantText k c :: constantTexts (k + c.value?.toList.length) cs

/-- A text guarded against null if the field asks for it. -/
def guarded (f : Field) (text : String) : String :=
  if f.checkNotNull then "(" ++ f.target ++ " != null && " ++ text ++ ")" else text

/-- The text of a formula with placeholders from the `k`-th on. -/
def text (k : Nat) : Formula → String
  | .flag f => f.target
  | .compared f op .null => f.target ++ " " ++ op.operatorSymbol?.getD "" ++ " null"
  | .compared f op (.value _) =>
      guarded f (f.compared ++ " " ++ op.operatorSymbol?.getD "" ++ " " ++ Predicate.placeholder k)
  | .listed f cs => f.compared ++ " in (" ++ ", ".intercalate (constantTexts k cs) ++ ")"
  | .call fn f _ =>
      guarded f (f.compared ++ "." ++ fn.functionName?.getD "" ++ "(" ++ Predicate.placeholder k ++
        ")")
  | .group φ => "(" ++ φ.text k ++ ")"
  | .negation φ => "!(" ++ φ.text k ++ ")"
  | .join φ c ψ => φ.text k ++ " " ++ c.symbol ++ " " ++ ψ.text (k + φ.args.length)

/-- The predicate of a formula. -/
def predicate (φ : Formula) : Predicate :=
  ⟨φ.text 0, φ.args⟩

end Formula

end FilterQuery
