import NcInsight.Signature.Basic

/-
The functions of the language.
-/
namespace NcInsight
namespace Signature

def bracket (s : String) : Part := { bracket := some s }

def group (params : List Parameter) : Part := { params }

/-- A function of one bracketed argument. -/
def unary (name description : String) (argument : Parameter) : Function :=
  { name, overloads := [{ description, parts := [bracket "[", group [argument], bracket "]"] }] }

def angle : Parameter := { name := "angle", doc := some "Angle in degrees" }

def sineValue : Parameter := { name := "value", doc := some "Value between -1 and 1" }

def plainValue : Parameter := { name := "value" }

def opposite : Parameter := { name := "y", doc := some "Opposite side" }

def adjacent : Parameter := { name := "x", doc := some "Adjacent side" }

def arcTangent : Function :=
  { name := "ATAN",
    overloads := [
      { description := "Arc tangent of y/x, result in degrees."
        parts := [bracket "[", group [opposite], bracket "]", { escape := some "/" },
          bracket "[", group [adjacent], bracket "]"] },
      { description := "Arc tangent of y/x, result in degrees."
        delimiter := ","
        parts := [bracket "[", group [opposite, adjacent], bracket "]"] }] }

def power : Function :=
  { name := "POW",
    overloads := [
      { description := "Power."
        delimiter := ","
        parts := [bracket "[", group [{ name := "base" }, { name := "exponent" }],
          bracket "]"] }] }

def setVariableName : Function :=
  { name := "SETVN",
    overloads := [
      { description := "Assign a name to a common variable."
        parts := [group [{ name := "var", doc := some "Variable number" }], bracket "[",
          group [{ name := "name", doc := some "Variable name" }], bracket "]"] }] }

def builtin : Table :=
  { functions := [
      unary "SIN" "Sine of an angle in degrees." angle,
      unary "COS" "Cosine of an angle in degrees." angle,
      unary "TAN" "Tangent of an angle in degrees." angle,
      unary "ASIN" "Arc sine, result in degrees." sineValue,
      unary "ACOS" "Arc cosine, result in degrees." sineValue,
      arcTangent,
      unary "SQRT" "Square root." plainValue,
      unary "ABS" "Absolute value." plainValue,
      unary "ROUND" "Round to the nearest integer." plainValue,
      unary "FIX" "Discard the fractional part." plainValue,
      unary "FUP" "Round the fractional part up." plainValue,
      unary "LN" "Natural logarithm." { name := "value", doc := some "Positive value" },
      unary "EXP" "Exponential function." plainValue,
      power,
      unary "BIN" "Convert from BCD to binary." plainValue,
      unary "BCD" "Convert from binary to BCD." plainValue,
      unary "ADP" "Add a decimal point to an argument given without one."
        { name := "variable", doc := some "Argument variable, e.g. #24" },
      setVariableName] }

end Signature
end NcInsight
