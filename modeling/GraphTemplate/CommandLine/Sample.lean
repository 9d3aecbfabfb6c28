/-!
A sample template that new ones can start from.
-/

namespace GraphTemplate.CommandLine

def sampleLines : List String := [
  "labels:",
  "  Human:",
  "    properties:",
  "      name:",
  "        type: string",
  "        restrictions:",
  "          regexps:",
  "          - ^[A-Z]",
  "    connections:",
  "      Human:",
  "      - edge: knows",
  "        ratio:",
  "          min: 0",
  "          max: -1",
  "nodes:",
  "  Person:",
  "    labels:",
  "    - Human",
  "    properties:",
  "      age:",
  "        type: int",
  "        restrictions:",
  "          regexps:",
  "          - ^\\d\x7b1,3\x7d$",
  "      birth:",
  "        type: datetime",
  "      things:",
  "        type: array-string",
  "      addresses:",
  "        type: map-string-string",
  "        restrictions:",
  "          key_regexps:",
  "          - ^street",
  "    connections:",
  "      Pet:",
  "      - edge: owns",
  "        ratio:",
  "          min: 0",
  "          max: 3",
  "  Pet:",
  "    properties:",
  "      nickname:",
  "        type: string",
  "      kind:",
  "        type: string",
  "        restrictions:",
  "          values:",
  "          - cat",
  "          - dog",
  "edges:",
  "  knows:",
  "    properties:",
  "      since:",
  "        type: datetime",
  "  owns:",
  "    properties: \x7b\x7d"]

def sampleText : String := String.join (sampleLines.map (· ++ "\n"))

end GraphTemplate.CommandLine
