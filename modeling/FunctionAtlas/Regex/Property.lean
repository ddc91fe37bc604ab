import FunctionAtlas.Regex.CharClass
import FunctionAtlas.Regex.Syntax
import FunctionAtlas.Text.Property
import FunctionAtlas.Text.Script

/-!
Contract: the sets that Unicode properties describe.

Names are compared without regard to case, blanks, dashes, underscores and a leading `is`. A single
name is a yes-or-no property, else a category, else a script. A name with a value is the category,
the script or a script extension.

Owns: the meaning of questions about properties, and the shorthands for digits, white space and
word characters.
-/

namespace FunctionAtlas.Regex

/-- Why a question about a property has no answer. -/
inductive PropertyFault where
  | noProperty
  | noValue
deriving DecidableEq, Repr

namespace Property

/-! ## Sets -/

/-- The characters of categories. -/
def ofCategories (categories : List String) : CharClass :=
  CharClass.ofRanges (categories.flatMap Text.Category.ranges)

/-- The code points that lines of a table list. -/
def ofLines (lines : List String) : CharClass :=
  CharClass.ofRanges (Text.RangeTable.ofLines lines).ranges

/-- The characters with a property. -/
def ofEntry (entry : Text.Property.Entry) : CharClass :=
  ((ofCategories entry.categories).union (ofLines entry.added)).difference (ofLines entry.removed)

/-- The characters with the property of a name, spelled as in the table. -/
def ofName (name : String) : CharClass :=
  match Text.Property.entries.find? fun entry => entry.names.contains name with
  | some entry => ofEntry entry
  | none => CharClass.empty

/-- The characters that belong to a script. -/
def ofScript (script : Text.Script.Entry) : CharClass := ofLines script.members

/-- The characters that are used with a script. -/
def ofScriptExtensions (script : Text.Script.Entry) : CharClass :=
  ((ofLines script.members).union (ofLines script.added)).difference (ofLines script.removed)

/-- Word characters: letters, marks, digits, connecting punctuation and joiners. -/
def word : CharClass :=
  (ofName "Alphabetic").union
    ((ofCategories ["Mc", "Me", "Mn", "Nd", "Pc"]).union (ofName "Join_Control"))

/-- The characters of a shorthand, in all of Unicode. -/
def ofShorthand : Shorthand → CharClass
  | .digit => ofCategories ["Nd"]
  | .space => ofName "White_Space"
  | .word => word

/-- The characters of a shorthand among ASCII. -/
def asciiShorthand : Shorthand → CharClass
  | .digit => ⟨[(0x30, 0x39)]⟩
  | .space => ⟨[(0x09, 0x0D), (0x20, 0x20)]⟩
  | .word => ⟨[(0x30, 0x39), (0x41, 0x5A), (0x5F, 0x5F), (0x61, 0x7A)]⟩

/-! ## Names -/

/-- The part of a name that counts. -/
def bareName (name : String) : String :=
  let characters := name.toList
  let hasIs := (characters.take 2).map Char.toLower = ['i', 's']
  let rest := if hasIs then characters.drop 2 else characters
  let kept := rest.filter fun character =>
    character ≠ ' ' && character ≠ '_' && character ≠ '-' && character.toNat < 0x80
  let bare := kept.map Char.toLower
  if hasIs && bare = ['c'] then "isc" else String.ofList bare

def isSame (bare : String) (name : String) : Bool := bareName name = bare

/-- The names of categories and of groups of categories. -/
def categoryNames : List (String × List String) :=
  [ ("C", ["C", "Other"]), ("Cc", ["Cc", "Control", "Cntrl"]), ("Cf", ["Cf", "Format"]),
    ("Cn", ["Cn", "Unassigned"]), ("Co", ["Co", "Private_Use"]), ("Cs", ["Cs", "Surrogate"]),
    ("L", ["L", "Letter"]), ("LC", ["LC", "Cased_Letter"]), ("Ll", ["Ll", "Lowercase_Letter"]),
    ("Lm", ["Lm", "Modifier_Letter"]), ("Lo", ["Lo", "Other_Letter"]),
    ("Lt", ["Lt", "Titlecase_Letter"]), ("Lu", ["Lu", "Uppercase_Letter"]),
    ("M", ["M", "Mark", "Combining_Mark"]), ("Mc", ["Mc", "Spacing_Mark"]),
    ("Me", ["Me", "Enclosing_Mark"]), ("Mn", ["Mn", "Nonspacing_Mark"]),
    ("N", ["N", "Number"]), ("Nd", ["Nd", "Decimal_Number", "Digit"]),
    ("Nl", ["Nl", "Letter_Number"]), ("No", ["No", "Other_Number"]),
    ("P", ["P", "Punctuation", "Punct"]), ("Pc", ["Pc", "Connector_Punctuation"]),
    ("Pd", ["Pd", "Dash_Punctuation"]), ("Pe", ["Pe", "Close_Punctuation"]),
    ("Pf", ["Pf", "Final_Punctuation"]), ("Pi", ["Pi", "Initial_Punctuation"]),
    ("Po", ["Po", "Other_Punctuation"]), ("Ps", ["Ps", "Open_Punctuation"]),
    ("S", ["S", "Symbol"]), ("Sc", ["Sc", "Currency_Symbol"]), ("Sk", ["Sk", "Modifier_Symbol"]),
    ("Sm", ["Sm", "Math_Symbol"]), ("So", ["So", "Other_Symbol"]), ("Z", ["Z", "Separator"]),
    ("Zl", ["Zl", "Line_Separator"]), ("Zp", ["Zp", "Paragraph_Separator"]),
    ("Zs", ["Zs", "Space_Separator"]) ]

/-- The names of the properties with values, which are no sets by themselves. -/
def valuedNames : List String :=
  [ "Age", "Bidi_Class", "bc", "Bidi_Mirroring_Glyph", "bmg", "Bidi_Paired_Bracket", "bpb",
    "Bidi_Paired_Bracket_Type", "bpt", "Block", "blk", "Canonical_Combining_Class", "ccc",
    "Case_Folding", "Decomposition_Mapping", "dm", "Decomposition_Type", "dt",
    "East_Asian_Width", "ea", "General_Category", "gc", "Grapheme_Cluster_Break", "GCB",
    "Hangul_Syllable_Type", "hst", "Indic_Positional_Category", "InPC",
    "Indic_Syllabic_Category", "InSC", "ISO_Comment", "isc", "Jamo_Short_Name", "JSN",
    "Joining_Group", "jg", "Joining_Type", "jt", "Line_Break", "lb", "Lowercase_Mapping",
    "Name", "na", "Name_Alias", "NFC_Quick_Check", "NFC_QC", "NFD_Quick_Check", "NFD_QC",
    "NFKC_Casefold", "NFKC_CF", "NFKC_Quick_Check", "NFKC_QC", "NFKD_Quick_Check", "NFKD_QC",
    "Numeric_Type", "nt", "Numeric_Value", "nv", "Script", "Script_Extensions", "scx",
    "Sentence_Break", "SB", "Simple_Case_Folding", "scf", "sfc", "Simple_Lowercase_Mapping",
    "slc", "Simple_Titlecase_Mapping", "stc", "Simple_Uppercase_Mapping", "suc",
    "Titlecase_Mapping", "tc", "Unicode_1_Name", "na1", "Uppercase_Mapping", "uc",
    "Vertical_Orientation", "vo", "Word_Break", "WB" ]

/-! ## Questions -/

/-- The category of a name; some names stand for sets that are no category. -/
def category? (bare : String) : Option (Except PropertyFault CharClass) :=
  match bare with
  | "any" => some (.ok ⟨[(0, CharClass.lastCode)]⟩)
  | "assigned" => some (.ok (ofCategories ["Cn"]).complement)
  | "ascii" => some (.ok ⟨[(0, 0x7F)]⟩)
  | _ =>
      (categoryNames.find? fun entry => entry.2.any (isSame bare)).map fun entry =>
        match Text.Category.expand entry.1 with
        | [] => .error .noValue
        | categories => .ok (ofCategories categories)

def script? (bare : String) : Option Text.Script.Entry :=
  Text.Script.entries.find? fun script => script.names.any (isSame bare)

/-- The set of a single name. -/
def ofBareName (bare : String) : Except PropertyFault CharClass :=
  let isAbbreviation := bare = "cf" || bare = "sc" || bare = "lc"
  let property := Text.Property.entries.find? fun entry => entry.names.any (isSame bare)
  match isAbbreviation, property with
  | false, some entry => .ok (ofEntry entry)
  | _, _ =>
      if !isAbbreviation && valuedNames.any (isSame bare) then .error .noProperty
      else
        match category? bare with
        | some answer => answer
        | none =>
            match script? bare with
            | some script => .ok (ofScript script)
            | none => .error .noProperty

/-- The set of a property with a value. -/
def ofBareValue (name value : String) : Except PropertyFault CharClass :=
  if isSame name "gc" || isSame name "General_Category" then
    (category? value).getD (.error .noValue)
  else if isSame name "sc" || isSame name "Script" then
    match script? value with
    | some script => .ok (ofScript script)
    | none => .error .noValue
  else if isSame name "scx" || isSame name "Script_Extensions" then
    match script? value with
    | some script => .ok (ofScriptExtensions script)
    | none => .error .noValue
  else if valuedNames.any (isSame name) || name = "cf" || name = "lc" ||
      Text.Property.entries.any fun entry => entry.names.any (isSame name) then
    .error .noValue
  else .error .noProperty

end Property

/-- The set that a question describes. -/
def PropertyQuery.resolve : PropertyQuery → Except PropertyFault CharClass
  | .named name => Property.ofBareName (Property.bareName name)
  | .valued _ name value =>
      Property.ofBareValue (Property.bareName name) (Property.bareName value)

/-- Whether a question asks for the characters with another value. -/
def PropertyQuery.isOther : PropertyQuery → Bool
  | .named _ => false
  | .valued isOther _ _ => isOther

end FunctionAtlas.Regex
