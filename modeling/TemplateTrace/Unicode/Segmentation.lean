import TemplateTrace.Unicode.Property

/-!
# Segmentation

The values by which Unicode 16.0 finds the ends of user-perceived characters, words and
sentences. Most of them are nearly unions of general categories and properties, so each is given
as some of these, with the ranges that join them and the ranges that leave them. Characters
without a value of their own have none here.
-/

namespace TemplateTrace.Unicode

/-- A value: its names in lower case and without separators, and its characters. -/
structure BreakValue where
  names : List String
  categories : List String := []
  properties : List String := []
  added : List String := []
  removed : List String := []

namespace BreakValue

/-- The characters that have a value. -/
def members (v : BreakValue) : CharSet :=
  let base : CharSet :=
    v.categories.foldl (fun (set : CharSet) key => set.union (categorySet key)) .empty
  let base := v.properties.foldl (fun (set : CharSet) name => set.union (having name)) base
  (base.union (.ofRows v.added)).difference (.ofRows v.removed)

end BreakValue

/-- The values for the ends of user-perceived characters. -/
def graphemeBreaks : List BreakValue :=
  [{ names := ["cr"],
      added := ["D"] },
    { names := ["cn", "control"],
      added := ["0-9 B-C E-1F 7F-9F AD 61C 180E 200B 200E-200F 2028-202E 2060-206F FEFF",
        "FFF0-FFFB 13430-1343F 1BCA0-1BCA3 1D173-1D17A E0000-E001F E0080-E00FF E01F0-E0FFF"] },
    { names := ["ex", "extend"],
      properties := ["graphemeextend", "emojimodifier"] },
    { names := ["l"],
      added := ["1100-115F A960-A97C"] },
    { names := ["lf"],
      added := ["A"] },
    { names := ["lv"],
      added := ["AC00-D788/1C"] },
    { names := ["lvt"],
      added := ["AC01-D789/1C AC02-D78A/1C AC03-D78B/1C AC04-D78C/1C AC05-D78D/1C",
        "AC06-D78E/1C AC07-D78F/1C AC08-D790/1C AC09-D791/1C AC0A-D792/1C AC0B-D793/1C",
        "AC0C-D794/1C AC0D-D795/1C AC0E-D796/1C AC0F-D797/1C AC10-D798/1C AC11-D799/1C",
        "AC12-D79A/1C AC13-D79B/1C AC14-D79C/1C AC15-D79D/1C AC16-D79E/1C AC17-D79F/1C",
        "AC18-D7A0/1C AC19-D7A1/1C AC1A-D7A2/1C AC1B-D7A3/1C"] },
    { names := ["pp", "prepend"],
      properties := ["prependedconcatenationmark"],
      added := ["D4E 111C2-111C3 113D1 1193F 11941 11A3A 11A84-11A89 11D46 11F02"] },
    { names := ["regionalindicator", "ri"],
      added := ["1F1E6-1F1FF"] },
    { names := ["sm", "spacingmark"],
      categories := ["mc"],
      added := ["E33 EB3"],
      removed := ["9BE 9D7 B3E B57 BBE BD7 CC0 CC2 CC7-CC8 CCA-CCB CD5-CD6 D3E D57 DCF DDF",
        "102B-102C 1038 1062-1064 1067-106D 1083 1087-108C 108F 109A-109C 1715 1734 1A61",
        "1A63-1A64 1B35 1B3B 1B3D 1B43-1B44 1BAA 1BF2-1BF3 302E-302F A953 A9C0 AA7B AA7D",
        "111C0 11235 1133E 1134D 11357 113B8 113C2 113C5 113C7-113C9 113CF 114B0 114BD 115AF",
        "116B6 11720-11721 11930 1193D 11F41 16FF0-16FF1 1D165-1D166 1D16D-1D172"] },
    { names := ["t"],
      added := ["11A8-11FF D7CB-D7FB"] },
    { names := ["v"],
      added := ["1160-11A7 D7B0-D7C6 16D63 16D67-16D6A"] },
    { names := ["zwj"],
      added := ["200D"] }]

/-- The values for the ends of words. -/
def wordBreaks : List BreakValue :=
  [{ names := ["aletter", "le"],
      categories := ["lm"],
      properties := ["idstart", "cased"],
      added := ["2C2-2C5 2D2-2D7 2DE-2DF 2E5-2EB 2ED 2EF-2FF 55A-55C 55E 58A 5F3 70F",
        "A708-A716 A720-A721 A789-A78A AB5B"],
      removed := ["345 5D0-5EA 5EF-5F2 E01-E30 E32-E33 E40-E46 E81-E82 E84 E86-E8A E8C-EA3",
        "EA5 EA7-EB0 EB2-EB3 EBD EC0-EC4 EC6 EDC-EDF 1000-102A 103F 1050-1055 105A-105D 1061",
        "1065-1066 106E-1070 1075-1081 108E 1780-17B3 17D7 17DC 1885-1886 1950-196D 1970-1974",
        "1980-19AB 19B0-19C9 1A20-1A54 1AA7 2118 212E 3006-3007 3021-3029 3031-3035 3038-303A",
        "3041-3096 309B-309F 30A1-30FA 30FC-30FF 31F0-31FF 3400-4DBF 4E00-9FFF A9E0-A9E4",
        "A9E6-A9EF A9FA-A9FE AA60-AA76 AA7A AA7E-AAAF AAB1 AAB5-AAB6 AAB9-AABD AAC0 AAC2",
        "AADB-AADD F900-FA6D FA70-FAD9 FB1D FB1F-FB28 FB2A-FB36 FB38-FB3C FB3E FB40-FB41",
        "FB43-FB44 FB46-FB4F FF66-FF9F 11700-1171A 11740-11746 17000-187F7 18800-18CD5",
        "18CFF-18D08 1AFF0-1AFF3 1AFF5-1AFFB 1AFFD-1AFFE 1B000-1B122 1B132 1B150-1B152 1B155",
        "1B164-1B167 1B170-1B2FB 20000-2A6DF 2A700-2B739 2B740-2B81D 2B820-2CEA1 2CEB0-2EBE0",
        "2EBF0-2EE5D 2F800-2FA1D 30000-3134A 31350-323AF"] },
    { names := ["cr"],
      added := ["D"] },
    { names := ["doublequote", "dq"],
      added := ["22"] },
    { names := ["extend"],
      categories := ["mc"],
      properties := ["graphemeextend", "emojimodifier"] },
    { names := ["ex", "extendnumlet"],
      categories := ["pc"],
      added := ["202F"] },
    { names := ["fo", "format"],
      categories := ["cf"],
      removed := ["600-605 6DD 70F 890-891 8E2 200B-200D 110BD 110CD E0020-E007F"] },
    { names := ["hebrewletter", "hl"],
      added := ["5D0-5EA 5EF-5F2 FB1D FB1F-FB28 FB2A-FB36 FB38-FB3C FB3E FB40-FB41",
        "FB43-FB44 FB46-FB4F"] },
    { names := ["ka", "katakana"],
      added := ["3031-3035 309B-309C 30A0-30FA 30FC-30FF 31F0-31FF 32D0-32FE 3300-3357",
        "FF66-FF9D 1AFF0-1AFF3 1AFF5-1AFFB 1AFFD-1AFFE 1B000 1B120-1B122 1B155 1B164-1B167"] },
    { names := ["lf"],
      added := ["A"] },
    { names := ["midletter", "ml"],
      added := ["3A B7 387 55F 5F4 2027 FE13 FE55 FF1A"] },
    { names := ["midnum", "mn"],
      added := ["2C 3B 37E 589 60C-60D 66C 7F8 2044 FE50 FE54 FF0C FF1B"] },
    { names := ["mb", "midnumlet"],
      added := ["2E 2018-2019 2024 FE52 FF07 FF0E"] },
    { names := ["newline", "nl"],
      added := ["B-C 85 2028-2029"] },
    { names := ["nu", "numeric"],
      categories := ["nd"],
      properties := ["prependedconcatenationmark"],
      added := ["66B 19DA"],
      removed := ["70F"] },
    { names := ["regionalindicator", "ri"],
      added := ["1F1E6-1F1FF"] },
    { names := ["singlequote", "sq"],
      added := ["27"] },
    { names := ["wsegspace"],
      categories := ["zs"],
      removed := ["A0 2007 202F"] },
    { names := ["zwj"],
      added := ["200D"] }]

/-- The values for the ends of sentences. -/
def sentenceBreaks : List BreakValue :=
  [{ names := ["at", "aterm"],
      added := ["2E 2024 FE52 FF0E"] },
    { names := ["cr"],
      added := ["D"] },
    { names := ["cl", "close"],
      properties := ["quotationmark"],
      added := ["28-29 5B 5D 7B 7D F3A-F3D 169B-169C 2045-2046 207D-207E 208D-208E",
        "2308-230B 2329-232A 275B-2760 2768-2775 27C5-27C6 27E6-27EF 2983-2998 29D8-29DB",
        "29FC-29FD 2E00-2E0D 2E1C-2E1D 2E20-2E29 2E55-2E5C 3008-300B 3010-3011 3014-301B",
        "FD3E-FD3F FE17-FE18 FE35-FE40 FE47-FE48 FE59-FE5E FF08-FF09 FF3B FF3D FF5B FF5D",
        "FF5F-FF60 1F676-1F678"],
      removed := ["FF02 FF07"] },
    { names := ["ex", "extend"],
      categories := ["mc"],
      properties := ["graphemeextend", "joincontrol"] },
    { names := ["fo", "format"],
      categories := ["cf"],
      removed := ["600-605 6DD 890-891 8E2 200C-200D 110BD 110CD E0020-E007F"] },
    { names := ["lf"],
      added := ["A"] },
    { names := ["lo", "lower"],
      properties := ["lowercase"],
      removed := ["345 10D0-10FA 10FD-10FF"] },
    { names := ["nu", "numeric"],
      categories := ["nd"],
      properties := ["prependedconcatenationmark"],
      added := ["66B-66C 19DA"],
      removed := ["70F"] },
    { names := ["le", "oletter"],
      categories := ["lo", "lm", "nl"],
      added := ["5F3 10D0-10FA 10FD-10FF 1C90-1CBA 1CBD-1CBF"],
      removed := ["AA BA 2B0-2B8 2C0-2C1 2E0-2E4 37A 10FC 1D2C-1D6A 1D78 1D9B-1DBF 2071",
        "207F 2090-209C 2160-217F 2C7C-2C7D A69C-A69D A770 A7F2-A7F4 A7F8-A7F9 AB5C-AB5F AB69",
        "FF9E-FF9F 10780 10783-10785 10787-107B0 107B2-107BA 1E030-1E06D"] },
    { names := ["sc", "scontinue"],
      added := ["2C-2D 3A-3B 37E 55D 60C-60D 7F8 1802 1808 2013-2014 3001 FE10-FE11",
        "FE13-FE14 FE31-FE32 FE50-FE51 FE54-FE55 FE58 FE63 FF0C-FF0D FF1A-FF1B FF64"] },
    { names := ["st", "sterm"],
      properties := ["sentenceterminal"],
      removed := ["2E 2024 FE52 FF0E"] },
    { names := ["se", "sep"],
      added := ["85 2028-2029"] },
    { names := ["sp"],
      categories := ["zs"],
      added := ["9 B-C"] },
    { names := ["up", "upper"],
      categories := ["lt"],
      properties := ["uppercase"],
      removed := ["1C90-1CBA 1CBD-1CBF"] }]

/-- The characters with the value of the given name, out of the given values. -/
def breakValue? (values : List BreakValue) (name : String) : Option CharSet :=
  (values.find? (·.names.contains name)).map BreakValue.members

end TemplateTrace.Unicode
