import Scenarist.Text.Basic

/-! # Gherkin documents

A feature as it is written: scenarios of its own, rules with further scenarios,
backgrounds, and tags in whichever form they were given. -/

namespace Scenarist.Gherkin

abbrev Table := List (List Text)

structure Step where
  keyword : Text
  text : Text
  line : Nat
  docstring : Option Text
  table : Option Table
deriving DecidableEq, Repr

structure Examples where
  tags : List Text
  table : Option Table
deriving DecidableEq, Repr

structure Background where
  steps : List Step
deriving DecidableEq, Repr

structure Scenario where
  keyword : Text
  name : Text
  description : Option Text
  tags : List Text
  line : Nat
  steps : List Step
  examples : List Examples
deriving DecidableEq, Repr

structure Rule where
  name : Text
  tags : List Text
  background : Option Background
  scenarios : List Scenario
deriving DecidableEq, Repr

/-- A whole document. One that was read from a file knows its path. -/
structure Feature where
  path : Option Text
  keyword : Text
  name : Text
  description : Option Text
  tags : List Text
  background : Option Background
  scenarios : List Scenario
  rules : List Rule
deriving DecidableEq, Repr

end Scenarist.Gherkin
