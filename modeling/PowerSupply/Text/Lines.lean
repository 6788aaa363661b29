/-
# Lines

A text that consists of whole lines, each ended by a line feed.
-/

namespace PowerSupply
namespace Text

/-- Lines as one text. -/
def unlines (lines : List String) : String := String.join (lines.map (· ++ "\n"))

end Text
end PowerSupply
