import Scenarist.Text.Basic

/-! # Styles

Emphasis of diagnostics by terminal escapes, where styling is wanted. -/

namespace Scenarist.App

structure Styles where
  present : Bool := false
deriving DecidableEq, Repr

namespace Styles

def apply (styles : Styles) (code text : Text) : Text :=
  if styles.present then
    ['\x1B', '['] ++ code ++ ['m'] ++ text ++ ['\x1B', '[', '0', 'm']
  else
    text

def error (styles : Styles) (text : Text) : Text :=
  styles.apply ['3', '1'] text

def bold (styles : Styles) (text : Text) : Text :=
  styles.apply ['1'] text

end Styles

end Scenarist.App
