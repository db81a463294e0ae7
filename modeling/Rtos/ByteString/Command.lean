import Rtos.Bytes.Order
import Rtos.ByteString.Print
import Rtos.ByteString.Replace
import Rtos.ByteString.Text
import Rtos.ByteString.Trim
import Rtos.Fault

/-!
# Commands on byte strings

The operations on byte strings as values, so that sequences of them can be run and
spoken about. A command works on one string and may read or change a second one.
-/

namespace Rtos

namespace ByteString

/-- An operation on a string, and on a second string where it takes one. -/
inductive Command where
  /-- Becomes a new empty string with the given room. -/
  | withCapacity (capacity : Nat)
  /-- Becomes a new string that holds the bytes. -/
  | ofBytes (bytes : Bytes)
  /-- Becomes a new string that holds the C string at the start of the bytes. -/
  | ofCString (bytes : Bytes)
  /-- Becomes a copy of the second string. -/
  | copy
  /-- Becomes the second string, which becomes empty. -/
  | take
  | swap
  | clear
  | reserve (capacity : Nat)
  | setBytes (bytes : Bytes)
  | setCString (bytes : Bytes)
  | setCStringPrefix (bytes : Bytes) (limit : Nat)
  /-- Takes over the content of the second string. -/
  | set
  /-- Takes over a part of the second string. -/
  | setSubstring (offset length : Nat)
  | setByte (position : Nat) (byte : UInt8)
  | pushByte (byte : UInt8)
  | pushBytes (bytes : Bytes)
  | pushCharacter (character : Char)
  /-- Appends the content of the second string. -/
  | append
  | appendCString (bytes : Bytes)
  | left (count : Nat)
  | right (count : Nat)
  | middle (position count : Nat)
  | trim (set : Bytes)
  | trimWhitespace
  | replaceRange (position count : Nat) (bytes : Bytes)
  | replaceFirst (needle replacement : Bytes) (start : Nat)
  | replaceAll (needle replacement : Bytes)
  | print (format : Bytes) (arguments : List Format.Argument)
  | appendPrint (format : Bytes) (arguments : List Format.Argument)
  /-- Removes the content and appends the bytes. -/
  | refill (bytes : Bytes)
  | size
  | capacity
  | isEmpty
  | hash
  | length
  | byteAt (position : Nat)
  | content
  | buffer
  | cString
  | text?
  | text
  | columns (width : Nat)
  | debugText
  | characters
  | compare (bytes : Bytes)
  | compareIgnoringCase (bytes : Bytes)
  | equal (bytes : Bytes)
  | startsWith (bytes : Bytes)
  | endsWith (bytes : Bytes)
  /-- The order of the string and the second one. -/
  | order
  | find (needle : Bytes) (start : Nat)
  | findByte (byte : UInt8) (start : Nat)
  | findByteLast (byte : UInt8) (limit : Option Nat)

/-- What a command answers. -/
inductive Reply where
  | done
  | failed (error : Error)
  /-- The command was a mistake of the program. -/
  | broken (fault : Fault)
  | number (value : Int)
  | offset (position : Option Nat)
  | truth (value : Bool)
  | bytes (value : Bytes)
  | order (value : Ordering)
  | text (value : String)
  | decoded (value : Except Utf8.Malformation String)
  | characters (value : List Char)

/-- The answer to a format that cannot be applied. -/
def Reply.ofFailure : Format.Failure → Reply
  | .invalid => failed .invalidFormat
  | .tooManyPlaces => broken .formatOutOfRange

/-- The strings after a command, and its answer. -/
structure Outcome where
  string : ByteString
  other : ByteString
  reply : Reply

namespace Outcome

/-- A change of the string alone. -/
def changed (other string : ByteString) : Outcome :=
  ⟨string, other, .done⟩

/-- The answer to a question, which changes nothing. -/
def answered (string other : ByteString) (reply : Reply) : Outcome :=
  ⟨string, other, reply⟩

/-- A change that may fail and then changes nothing. -/
def attempted (string other : ByteString) (result : Except Error ByteString) : Outcome :=
  match result with
  | .ok next => ⟨next, other, .done⟩
  | .error error => ⟨string, other, .failed error⟩

/-- A change that may be refused with an answer, and otherwise answers a number. -/
def counted (string other : ByteString) (result : Except Reply (ByteString × Nat)) : Outcome :=
  match result with
  | .ok (next, count) => ⟨next, other, .number count⟩
  | .error refusal => ⟨string, other, refusal⟩

end Outcome

namespace Command

/-- The effect of a command on a string and a second one. -/
def run (command : Command) (string other : ByteString) : Outcome :=
  match command with
  | withCapacity room =>
      if Bytes.roomLimit < room then .answered string other (.broken .capacityOverflow)
      else
        let next := ByteString.withCapacity room
        ⟨next, other, .number next.capacity⟩
  | ofBytes bytes => .changed other (.ofBytes bytes)
  | ofCString bytes => .changed other (.ofCString bytes)
  | copy => .changed other other.copy
  | take => .changed .empty other
  | swap => .changed string other
  | clear => .changed other string.clear
  | reserve room =>
      .counted string other <|
        ((string.reserve room).map fun next => (next, next.capacity)).mapError Reply.failed
  | setBytes bytes => .changed other (string.setBytes bytes)
  | setCString bytes => .changed other (string.setCString bytes)
  | setCStringPrefix bytes limit => .changed other (string.setCStringPrefix bytes limit)
  | set => .changed other (string.setBytes other.content)
  | setSubstring start count => .changed other (string.setSubstring other start count)
  | setByte position byte => .attempted string other (string.setByte position byte)
  | pushByte byte => .changed other (string.pushByte byte)
  | pushBytes bytes => .changed other (string.pushBytes bytes)
  | pushCharacter character => .changed other (string.pushCharacter character)
  | append => .changed other (string.append other)
  | appendCString bytes => .changed other (string.appendCString bytes)
  | left count => .changed other (string.left count)
  | right count => .changed other (string.right count)
  | middle position count => .changed other (string.middle position count)
  | trim removed => .changed other (string.trim removed)
  | trimWhitespace => .changed other string.trimWhitespace
  | replaceRange position count bytes =>
      .attempted string other (string.replaceRange position count bytes)
  | replaceFirst needle replacement start =>
      let (next, position) := string.replaceFirst needle replacement start
      ⟨next, other, .offset position⟩
  | replaceAll needle replacement =>
      let (next, count) := string.replaceAll needle replacement
      ⟨next, other, .number count⟩
  | print format arguments =>
      .counted string other ((string.print format arguments).mapError Reply.ofFailure)
  | appendPrint format arguments =>
      .counted string other ((string.appendPrint format arguments).mapError Reply.ofFailure)
  | refill bytes => .changed other (string.clear.pushBytes bytes)
  | size => .answered string other (.number string.size)
  | capacity => .answered string other (.number string.capacity)
  | isEmpty => .answered string other (.truth string.isEmpty)
  | hash => .answered string other (.number string.hash.toNat)
  | length => .answered string other (.number string.characters.length)
  | byteAt position =>
      .answered string other <|
        match string.byteAt position with
        | .ok byte => .number byte.toNat
        | .error error => .failed error
  | content => .answered string other (.bytes string.content)
  | buffer => .answered string other (.bytes string.buffer)
  | cString => .answered string other (.bytes string.asCString)
  | text? => .answered string other (.decoded string.text?)
  | text => .answered string other (.text string.text)
  | columns width =>
      .answered string other <|
        if Text.widthLimit < width then .broken .formatOutOfRange
        else .text (Text.threeColumns width string.text)
  | debugText => .answered string other (.text string.debugText)
  | characters => .answered string other (.characters string.characters)
  | compare bytes => .answered string other (.number (Bytes.compare string.content bytes))
  | compareIgnoringCase bytes =>
      .answered string other (.number (Bytes.compareIgnoringCase string.content bytes))
  | equal bytes => .answered string other (.truth (string.content == bytes))
  | startsWith bytes => .answered string other (.truth (bytes.isPrefixOf string.content))
  | endsWith bytes => .answered string other (.truth (bytes.isSuffixOf string.content))
  | order => .answered string other (.order (Bytes.order string.content other.content))
  | find needle start =>
      .answered string other (.offset (Bytes.find? string.content needle start))
  | findByte byte start =>
      .answered string other (.offset (Bytes.findByte? string.content byte start))
  | findByteLast byte limit =>
      .answered string other (.offset (Bytes.findByteLast? string.content byte limit))

end Command

end ByteString

end Rtos
