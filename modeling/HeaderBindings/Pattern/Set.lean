import HeaderBindings.Pattern.Escape

/-!
# Character sets

Reading a set between brackets: characters, classes and ranges, all of them excluded when a
circumflex comes first. A closing bracket that comes first is a character of the set, and so is an
opening bracket or a sign that stands twice, of which a warning may be given; the warnings are left
out. A set of a single character is that character.
-/

namespace HeaderBindings.Pattern

open Text Reader

def SetItem.single? : SetItem → Option Nat
  | .single code => some code
  | _ => none

def rangeBetween? (low high : SetItem) : Option SetItem :=
  match low.single?, high.single? with
  | some l, some h => if h < l then none else some (.range l h)
  | _, _ => none

/-- Reads the set item that a token begins, the token having been taken. -/
def setItem : Token → Reader SetItem
  | .plain c => return .single c.toNat
  | .escaped c => setEscape c

/-- Reads the items of a set up to its closing bracket. `start` is the position of the opening
    bracket, `items` are the items read so far. -/
def setItems (start : Nat) : Nat → List SetItem → Reader (List SetItem)
  | 0, items => return items
  | budget + 1, items => do
      let some low ← next | fail .unclosedSet start
      if low = .plain ']' && !items.isEmpty then return items
      let lowItem ← setItem low
      if ← accept '-' then
        let some high ← next | fail .unclosedSet start
        if high = .plain ']' then
          return items ++ [lowItem, .single '-'.toNat]
        let highItem ← setItem high
        match rangeBetween? lowItem highItem with
        | some item => setItems start budget (items ++ [item])
        | none =>
            fail (.badRange (String.ofList low.text) (String.ofList high.text))
              ((← position) - low.text.length - 1 - high.text.length)
      else
        setItems start budget (items ++ [lowItem])

/-- The test for a character that one of the given items holds, or that none of them holds. -/
def CharTest.ofItems (negated : Bool) (items : List SetItem) : CharTest :=
  match items.eraseDups with
  | [.single code] => if negated then .otherThan code else .exactly code
  | items => .set negated items

/-- Reads a set, whose opening bracket has been taken. -/
def charSet : Reader CharTest := do
  let start := (← position) - 1
  let negated ← accept '^'
  let items ← setItems start ((← get).rest.length + 1) []
  return .ofItems negated items

end HeaderBindings.Pattern
