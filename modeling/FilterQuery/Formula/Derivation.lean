/-
**Derivations: which tokens spell which formula.**

The grammar of filters is

    filter     := expression | expression (and | or) filter
    expression := ( filter ) | not ( filter ) | comparison | call
    comparison := field | field operator constant | field in ( constant , … , constant )
    call       := function ( field , constant )

where fields, operators and constants have to fit together: a field alone is boolean, an operator
or function is one that the field supports, and a constant is one that the field takes and can
convert.

Main definitions:

* `Field.Admits` — a token is a constant of a field;
* `Field.Lists` — tokens are a list of constants of a field;
* `Category`, `Whitelist.Derives` — tokens are an expression or a filter that spells a formula.
-/

import FilterQuery.Formula

set_option relaxedAutoImplicit false
set_option autoImplicit false

namespace FilterQuery

/-- A token of one kind. -/
def Token.IsA (t : Token) (k : Kind) : Prop :=
  t.kinds = .single k

/-! ### Constants -/

/-- The token is a constant that the field takes.  The null word is one where nulls are allowed,
a literal stands for its text without quotes, and any other constant for its own text. -/
inductive Field.Admits (f : Field) (allowNull : Bool) (t : Token) : Constant → Prop where
  | null : t.IsA .nullWord → allowNull = true → .nullWord ∈ f.type.constantKinds →
      Field.Admits f allowNull t .null
  | literal {v : Value} : t.IsA .literal → .literal ∈ f.type.constantKinds →
      f.valueOf? t.literalValue = some v → Field.Admits f allowNull t (.value v)
  | word {k : Kind} {v : Value} : t.IsA k → k ∈ [.value, .trueWord, .falseWord] →
      k ∈ f.type.constantKinds → f.valueOf? t.text = some v → Field.Admits f allowNull t (.value v)

/-- The tokens are constants that the field takes, nulls included, with commas between them. -/
inductive Field.Lists (f : Field) : List Constant → List Token → Prop where
  | single {t : Token} {c : Constant} : f.Admits true t c → Field.Lists f [c] [t]
  | cons {t comma : Token} {c : Constant} {cs : List Constant} {ts : List Token} :
      f.Admits true t c → comma.IsA .comma → Field.Lists f cs ts →
      Field.Lists f (c :: cs) (t :: comma :: ts)

/-! ### Filters -/

/-- What a sequence of tokens is read as. -/
inductive Category where
  | expression
  | filter
deriving DecidableEq

/-- The token names the field. -/
def Whitelist.Names (w : Whitelist) (t : Token) (f : Field) : Prop :=
  t.IsA .field ∧ w.find? t.text = some f

/-- The tokens spell the formula. -/
inductive Whitelist.Derives (w : Whitelist) : Category → Formula → List Token → Prop where
  | flag {t : Token} {f : Field} : w.Names t f → f.type.isBoolean = true →
      Whitelist.Derives w .expression (.flag f) [t]
  | compared {t op x : Token} {f : Field} {k : Kind} {c : Constant} : w.Names t f → op.IsA k →
      k ∈ KindSet.comparison → k ≠ .memberOf → k ∈ f.supported →
      f.Admits (decide (k ∈ KindSet.equality)) x c →
      Whitelist.Derives w .expression (.compared f k c) [t, op, x]
  | listed {t op open_ close : Token} {f : Field} {cs : List Constant} {ts : List Token} :
      w.Names t f → op.IsA .memberOf → .memberOf ∈ f.supported → open_.IsA .openParen →
      f.Lists cs ts → close.IsA .closeParen →
      Whitelist.Derives w .expression (.listed f cs) (t :: op :: open_ :: (ts ++ [close]))
  | call {fn open_ t comma x close : Token} {f : Field} {k : Kind} {v : Value} : fn.IsA k →
      k ∈ KindSet.stringFunction → open_.IsA .openParen → w.Names t f → k ∈ f.supported →
      comma.IsA .comma → f.Admits false x (.value v) → close.IsA .closeParen →
      Whitelist.Derives w .expression (.call k f v) [fn, open_, t, comma, x, close]
  | group {open_ close : Token} {φ : Formula} {ts : List Token} : open_.IsA .openParen →
      Whitelist.Derives w .filter φ ts → close.IsA .closeParen →
      Whitelist.Derives w .expression (.group φ) (open_ :: (ts ++ [close]))
  | negation {not open_ close : Token} {φ : Formula} {ts : List Token} : not.IsA .negation →
      open_.IsA .openParen → Whitelist.Derives w .filter φ ts → close.IsA .closeParen →
      Whitelist.Derives w .expression (.negation φ) (not :: open_ :: (ts ++ [close]))
  | single {φ : Formula} {ts : List Token} : Whitelist.Derives w .expression φ ts →
      Whitelist.Derives w .filter φ ts
  | join {φ ψ : Formula} {ts us : List Token} {t : Token} {c : Connective} :
      Whitelist.Derives w .expression φ ts → t.IsA c.kind → Whitelist.Derives w .filter ψ us →
      Whitelist.Derives w .filter (.join φ c ψ) (ts ++ t :: us)

end FilterQuery
