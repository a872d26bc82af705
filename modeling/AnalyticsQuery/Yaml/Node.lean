import AnalyticsQuery.Yaml.Tag

/-!
# Nodes of a YAML document
-/

namespace AnalyticsQuery.Yaml

inductive Node where
  | scalar (tag : Tag) (text : String)
  | sequence (tag : Tag) (items : List Node)
  | mapping (tag : Tag) (entries : List (Node × Node))

namespace Node

/-- What stands where nothing is written. -/
def empty : Node := .scalar .null ""

def tag : Node → Tag
  | .scalar tag _ => tag
  | .sequence tag _ => tag
  | .mapping tag _ => tag

mutual

/-- The text of a node where a scalar is expected, for which a mapping may have a default. -/
def text? : Node → Option String
  | .scalar _ text => some text
  | .sequence _ _ => none
  | .mapping _ entries => defaultText? entries

/-- The text of the first default value. -/
def defaultText? : List (Node × Node) → Option String
  | [] => none
  | (key, value) :: entries => if key.tag = .default then text? value else defaultText? entries

end

end Node

end AnalyticsQuery.Yaml
