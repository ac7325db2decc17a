import OpenCLRegistry.Text.Unprintable
import OpenCLRegistry.Text.Combining

/-!
# Quoted text

Messages show a piece of text in double quotes, with the quote, the backslash
and everything that would not show as itself escaped. Each escape begins with a
backslash, and a backslash of the text is escaped too, so what is shown
determines the text.
-/
namespace OpenCLRegistry.Text

/-- Escaped as a code point: nothing would show, or it would change the character before. -/
def needsCodePoint (c : Char) : Bool :=
  !(' ' ≤ c && c ≤ '~') && (isUnprintable c || isCombining c)

def quoteChar (c : Char) : List Char :=
  match c with
  | '"' => ['\\', '"']
  | '\\' => ['\\', '\\']
  | '\n' => ['\\', 'n']
  | '\r' => ['\\', 'r']
  | '\t' => ['\\', 't']
  | '\x00' => ['\\', '0']
  | c => if needsCodePoint c then ['\\', 'u', '{'] ++ Nat.toDigits 16 c.toNat ++ ['}'] else [c]

def quoted (s : String) : String :=
  String.ofList ('"' :: s.toList.flatMap quoteChar ++ ['"'])

end OpenCLRegistry.Text
