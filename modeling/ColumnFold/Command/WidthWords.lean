/-!
# Width words

A width list often begins with a minus sign, and would then be taken for an option.  So the word
after `-w` or `--width` is attached to the option before the options are read.

* `WidthWords.attach` — a command line with every such word attached.
-/

set_option autoImplicit false

namespace ColumnFold
namespace WidthWords

/-- Whether a word is the width option without a value. -/
def isBare (word : String) : Bool := word == "-w" || word == "--width"

/-- Attaches the word after each bare width option to it, up to the word `--`. -/
def attach : List String → List String
  | [] => []
  | [word] => [word]
  | word :: value :: rest =>
    if word = "--" then word :: value :: rest
    else if isBare word then ("--width=" ++ value) :: attach rest
    else word :: attach (value :: rest)

end WidthWords
end ColumnFold
