/-
The templates of Jinja that test one variable and put out text or the variable:
their source, and what they render.
-/
import Mathlib.Init

namespace Foundation

/-- A test of the variable `value`. -/
inductive JinjaTest where
  | equals (text : String)
  | truthy
deriving Repr, DecidableEq

/-- What a branch puts out. -/
inductive JinjaOutput where
  | text (text : String)
  | value
deriving Repr, DecidableEq

/-- `if`, any number of `elif`, and `else`. -/
structure JinjaTemplate where
  first : JinjaTest × JinjaOutput
  others : List (JinjaTest × JinjaOutput)
  otherwise : JinjaOutput
deriving Repr, DecidableEq

namespace JinjaTest

def source : JinjaTest → String
  | equals text => "value == '" ++ text ++ "'"
  | truthy => "value"

def holds (value : String) : JinjaTest → Bool
  | equals text => value == text
  | truthy => value != ""

end JinjaTest

namespace JinjaOutput

def source : JinjaOutput → String
  | .text shown => shown
  | .value => "\x7b\x7b value \x7d\x7d"

def render (value : String) : JinjaOutput → String
  | .text shown => shown
  | .value => value

end JinjaOutput

namespace JinjaTemplate

def branch (keyword : String) (entry : JinjaTest × JinjaOutput) : String :=
  "\x7b% " ++ keyword ++ " " ++ entry.1.source ++ " %\x7d" ++ entry.2.source

/-- The template as it is written. -/
def source (template : JinjaTemplate) : String :=
  branch "if" template.first ++
    String.join (template.others.map (branch "elif")) ++
    "\x7b% else %\x7d" ++ template.otherwise.source ++ "\x7b% endif %\x7d"

/-- What the template puts out: the first branch whose test holds. -/
def render (template : JinjaTemplate) (value : String) : String :=
  match (template.first :: template.others).find?
      fun entry => entry.1.holds value with
  | some entry => entry.2.render value
  | none => template.otherwise.render value

end JinjaTemplate

/-- An engine that renders these templates as documented. -/
def RendersJinja (templates : List JinjaTemplate)
    (jinja : String → String → String) : Prop :=
  ∀ template ∈ templates, ∀ value,
    jinja template.source value = template.render value

end Foundation
