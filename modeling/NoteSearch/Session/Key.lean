-- SUMMARY: Key presses, and the chord that moves the focus to the search box.
/-!
# Keys

The keys that searching reacts to, and the modifiers held with them.
-/

namespace NoteSearch

inductive Key where
  | char (c : Char)
  | arrowDown
  | arrowUp
  | enter
  | escape
  | other
  deriving DecidableEq, Inhabited

/-- The modifiers held while a key is pressed. -/
structure Modifiers where
  ctrl : Bool := false
  command : Bool := false
  shift : Bool := false
  alt : Bool := false
  deriving DecidableEq, Inhabited

structure KeyPress where
  key : Key
  modifiers : Modifiers := {}
  deriving DecidableEq, Inhabited

/-- Whether a key press means "go to the search box": K or F with the control or the command
key. -/
def KeyPress.isFocusChord (k : KeyPress) : Bool :=
  (k.modifiers.ctrl || k.modifiers.command) &&
    match k.key with
    | .char c => c == 'k' || c == 'K' || c == 'f' || c == 'F'
    | _ => false

end NoteSearch
