/-! The operators of the language, each with a name and the symbol that spells it. The symbols are
read by tables of their own, which are the inverses of those by which they are written. -/

namespace ScriptTree

/-- A family of operators whose members are told apart by their symbols. -/
class OperatorFamily (ω : Type) where
  name : ω → String
  symbol : ω → String
  /-- The operator that a symbol spells. -/
  ofSymbol? : String → Option ω
  /-- A text is read as an operator exactly if it is the symbol of the operator. -/
  ofSymbol?_eq_some (text : String) (operator : ω) :
      ofSymbol? text = some operator ↔ symbol operator = text := by
    -- Both tables are short enough to go through them.
    intro text operator
    constructor
    · intro read
      split at read <;> cases read <;> rfl
    · rintro rfl
      cases operator <;> rfl

namespace OperatorFamily

variable {ω : Type} [OperatorFamily ω]

@[simp] theorem ofSymbol?_symbol (operator : ω) : ofSymbol? (symbol operator) = some operator :=
  (ofSymbol?_eq_some _ operator).mpr rfl

theorem symbol_injective {first second : ω} (same : symbol first = symbol second) :
    first = second := by
  rw [← Option.some_inj, ← ofSymbol?_symbol first, same, ofSymbol?_symbol]

end OperatorFamily

/-- Operators that assign to a name. -/
inductive AssignmentOperator where
  | assign
  | addAssign
  | subAssign
  | mulAssign
  | divAssign
deriving DecidableEq, Repr

/-- Operators of arithmetic and comparison. -/
inductive BinaryOperator where
  | add
  | sub
  | mul
  | div
  | eq
  | ne
  | lt
  | le
  | gt
  | ge
deriving DecidableEq, Repr

/-- Operators that join conditions. -/
inductive LogicalOperator where
  | and
  | or
deriving DecidableEq, Repr

/-- Operators that stand before their one operand. -/
inductive UnaryOperator where
  | plus
  | neg
  | not
deriving DecidableEq, Repr

instance : OperatorFamily AssignmentOperator where
  name
    | .assign => "Assign"
    | .addAssign => "AddAssign"
    | .subAssign => "SubAssign"
    | .mulAssign => "MulAssign"
    | .divAssign => "DivAssign"
  symbol
    | .assign => "="
    | .addAssign => "+="
    | .subAssign => "-="
    | .mulAssign => "*="
    | .divAssign => "/="
  ofSymbol?
    | "=" => some .assign
    | "+=" => some .addAssign
    | "-=" => some .subAssign
    | "*=" => some .mulAssign
    | "/=" => some .divAssign
    | _ => none

instance : OperatorFamily BinaryOperator where
  name
    | .add => "Add"
    | .sub => "Sub"
    | .mul => "Mul"
    | .div => "Div"
    | .eq => "Eq"
    | .ne => "Ne"
    | .lt => "Lt"
    | .le => "Le"
    | .gt => "Gt"
    | .ge => "Ge"
  symbol
    | .add => "+"
    | .sub => "-"
    | .mul => "*"
    | .div => "/"
    | .eq => "=="
    | .ne => "!="
    | .lt => "<"
    | .le => "<="
    | .gt => ">"
    | .ge => ">="
  ofSymbol?
    | "+" => some .add
    | "-" => some .sub
    | "*" => some .mul
    | "/" => some .div
    | "==" => some .eq
    | "!=" => some .ne
    | "<" => some .lt
    | "<=" => some .le
    | ">" => some .gt
    | ">=" => some .ge
    | _ => none

instance : OperatorFamily LogicalOperator where
  name
    | .and => "And"
    | .or => "Or"
  symbol
    | .and => "&&"
    | .or => "||"
  ofSymbol?
    | "&&" => some .and
    | "||" => some .or
    | _ => none

instance : OperatorFamily UnaryOperator where
  name
    | .plus => "Plus"
    | .neg => "Neg"
    | .not => "Not"
  symbol
    | .plus => "+"
    | .neg => "-"
    | .not => "!"
  ofSymbol?
    | "+" => some .plus
    | "-" => some .neg
    | "!" => some .not
    | _ => none

end ScriptTree
