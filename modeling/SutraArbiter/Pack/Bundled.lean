import SutraArbiter.Files

namespace SutraArbiter.Pack

def named (entries : List (String × Datum)) : Datum :=
  .map (entries.map fun entry => (.text entry.1, entry.2))

def texts (items : List String) : Datum :=
  .list (items.map .text)

/-- `numerator / 100`, as a rule file writes it. -/
def percent (numerator : Nat) : Datum :=
  .float (Double.ofRatio false numerator 100)

def metadata (title text description reason : String) (confidence : Datum) : Datum :=
  named [("title", .text title), ("text", .text text),
    ("description", .text description), ("confidence", confidence),
    ("reason", .text reason)]

def retention (settings : List (String × Datum)) : Datum :=
  named (("strategy", .text "retain_selection") :: settings)

def rule (id tier : String) (tags : List String) (metadata : Datum)
    (context : List (String × Datum)) (matching action : Datum) : Datum :=
  named ([("rule_id", .text id), ("version", .int 1), ("priority_class", .text tier),
    ("scope_tags", texts ("ekasesha" :: tags)), ("metadata", metadata)]
    ++ context ++ [("match", matching), ("action", action)])

def pairing (retain against : List (String × Datum)) : Datum :=
  named [("strategy", .text "attribute_pairing"), ("retain", named retain),
    ("against", named against)]

def lexicon (iast devanagari : List String) : Datum :=
  named [("iast", texts iast), ("devanagari", texts devanagari)]

def pair (retain drop : Datum) : Datum :=
  named [("retain", retain), ("drop", drop)]

def sameForms : Datum :=
  rule "1.2.64" "general" ["case"]
    (metadata "sarūpāṇām ekaśeṣa ekavibhaktau" "सरूपाणामेकशेष एकविभक्तौ"
      "Of words identical in form and in the same case ending, only the last remains"
      "identical-forms" (percent 90))
    []
    (named [("strategy", .text "identical_forms"),
      ("case_check_flag", .text "force_case_check")])
    (retention [])

def elderOverYounger : Datum :=
  rule "1.2.65" "specific" ["gotra"]
    (metadata "vṛddho yūnā tallakṣaṇaś ced eva viśeṣaḥ"
      "वृद्धो यूना तल्लक्षणश्चेदेव विशेषः"
      "A vṛddha (gotra) form is retained over its yuvan counterpart of the same base"
      "vrddha-vs-yuvan" (percent 95))
    []
    (pairing [("category", .text "vrddha")] [("category", .text "yuvan")])
    (retention [])

def feminineElder : Datum :=
  rule "1.2.66" "specific" ["gotra", "gender"]
    (metadata "strī puṃvac ca" "स्त्री पुंवच्च"
      "A feminine vṛddha form is retained over its yuvan counterpart and treated as masculine"
      "feminine-vrddha-retained" (percent 95))
    []
    (pairing [("gender", .text "f"), ("category", .text "vrddha")]
      [("category", .text "yuvan")])
    (retention [("gender_override", .text "masculine")])

def masculineOverFeminine : Datum :=
  rule "1.2.67" "specific" ["gender"]
    (metadata "pumān striyā" "पुमान् स्त्रिया"
      "A masculine form is retained over its feminine counterpart of the same base"
      "masculine-retained" (percent 95))
    []
    (pairing [("gender", .text "m")] [("gender", .text "f")])
    (retention [])

def brotherAndSon : Datum :=
  rule "1.2.68" "specific" ["kinship"]
    (metadata "bhrātṛputrau svasṛduhitṛbhyām" "भ्रातृपुत्रौ स्वसृदुहितृभ्याम्"
      "bhrātṛ and putra are retained over svasṛ and duhitṛ respectively"
      "kinship-retention" (percent 95))
    []
    (named [("strategy", .text "lexical_retention"), ("flag", .text "kinship"),
      ("pairs", .list [
        pair (lexicon ["bhrātṛ", "bhrātā"] ["भ्रातृ", "भ्राता"])
          (lexicon ["svasṛ", "svasā"] ["स्वसृ", "स्वसा"]),
        pair (lexicon ["putra", "putraḥ"] ["पुत्र", "पुत्रः"])
          (lexicon ["duhitṛ", "duhitā"] ["दुहितृ", "दुहिता"])])])
    (retention [])

def neuterOverOthers : Datum :=
  rule "1.2.69" "general" ["gender"]
    (metadata "napuṃsakam anapuṃsakenaikavac cāsyānyatarasyām"
      "नपुंसकमनपुंसकेनैकवच्चास्यान्यतरस्याम्"
      "A neuter form is optionally retained over a non-neuter counterpart and treated as singular"
      "neuter-optional" (percent 85))
    []
    (pairing [("gender", .text "n")] [("gender", named [("not", .text "n")])])
    (retention [("number_override", .text "singular"), ("optional", .bool true)])

def fatherOverMother : Datum :=
  rule "1.2.70" "general" ["kinship"]
    (metadata "pitā mātrā" "पिता मात्रा" "pitṛ is optionally retained over mātṛ"
      "pitr-optional" (percent 85))
    []
    (named [("strategy", .text "lexical_retention"),
      ("pairs", .list [
        pair (lexicon ["pitṛ", "pitā"] ["पितृ", "पिता"])
          (lexicon ["mātṛ", "mātā"] ["मातृ", "माता"])])])
    (retention [("optional", .bool true)])

def fatherInLaw : Datum :=
  rule "1.2.71" "general" ["kinship"]
    (metadata "śvaśuraḥ śvaśrvā" "श्वशुरः श्वश्र्वा"
      "śvaśura is optionally retained over śvaśrū" "inlaw-optional" (percent 85))
    []
    (named [("strategy", .text "lexical_retention"),
      ("pairs", .list [
        pair (lexicon ["śvaśura", "śvaśuraḥ"] ["श्वशुर", "श्वशुरः"])
          (lexicon ["śvaśrū", "śvaśrvā"] ["श्वश्रू", "श्वश्र्वा"])])])
    (retention [("optional", .bool true)])

def pronouns : Datum :=
  rule "1.2.72" "mandatory" ["pronoun"]
    (metadata "tyadādīni sarvair nityam" "त्यदादीनि सर्वैर्नित्यम्"
      "Pronouns of the tyad series are always retained over any other word"
      "tyad-mandatory" (percent 100))
    []
    (named [("strategy", .text "series_retention"), ("min_words", .int 1),
      ("flag", .text "pronoun"),
      ("series", lexicon ["tyad", "tad", "tat", "etad", "yad", "idam", "adas"]
        ["त्यद्", "तद्", "तत्", "एतद्", "यद्", "इदम्", "अदस्"])])
    (retention [])

def domesticAnimals : Datum :=
  rule "1.2.73" "domain_conditional" ["collection", "domain", "gender"]
    (metadata "grāmyapaśusaṅgheṣv ataruṇeṣu strī" "ग्राम्यपशुसंघेष्वतरुणेषु स्त्री"
      "In a collection of non-young domestic animals the feminine form is retained"
      "feminine-collection" (percent 90))
    [("context", named [
      ("require", named [("collection", .bool true),
        ("domain", .text "domestic-animals")]),
      ("forbid", named [("young", .bool true)])])]
    (named [("strategy", .text "attribute_selection"), ("min_words", .int 1),
      ("retain", named [("gender", .text "f")])])
    (retention [("domain", .text "animal-collection")])

def bundled : List (String × Datum) :=
  [("1.2.64.yaml", sameForms), ("1.2.65.yaml", elderOverYounger),
    ("1.2.66.yaml", feminineElder), ("1.2.67.yaml", masculineOverFeminine),
    ("1.2.68.yaml", brotherAndSon), ("1.2.69.yaml", neuterOverOthers),
    ("1.2.70.yaml", fatherOverMother), ("1.2.71.yaml", fatherInLaw),
    ("1.2.72.yaml", pronouns), ("1.2.73.yaml", domesticAnimals)]

end SutraArbiter.Pack
