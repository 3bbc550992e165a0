import Scenarist.Text.Basic

/-! # Suites

A suite is a list of features ready to be written out: each scenario carries
the background steps that apply to it, and every tag has its at sign. -/

namespace Scenarist.Suite

structure Step where
  keyword : Text
  text : Text
  line : Nat
  docstring : Option Text
  table : Option (List (List Text))
deriving DecidableEq, Repr

structure Examples where
  tags : List Text
  rows : List (List Text)
deriving DecidableEq, Repr

structure Scenario where
  keyword : Text
  name : Text
  description : Text
  tags : List Text
  line : Nat
  background : List Step
  steps : List Step
  examples : List Examples
deriving DecidableEq, Repr

structure Feature where
  uri : Text
  keyword : Text
  name : Text
  description : Text
  tags : List Text
  scenarios : List Scenario
deriving DecidableEq, Repr

end Scenarist.Suite
