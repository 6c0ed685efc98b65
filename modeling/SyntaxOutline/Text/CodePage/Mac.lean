import SyntaxOutline.Text.CodePage.Basic

/-
  Code pages of the Mac.

  Above ASCII they have the letters of a region, with some signs
  of mathematics and typography.

  Key definitions include:
    * `CodePage.mac`
-/

------------------------------------------------------------
-- Pages
------------------------------------------------------------

namespace SyntaxOutline

namespace CodePage

/- The pages, each with its names. -/
def mac : List CodePage :=
  [above
      ["mac_arabic"]
      ["Ä\xa0ÇÉÑÖÜáàâä\u06ba«çéèêëí…îïñó»ôö÷úùûü",
        " !\x22#$٪&\x27()*+،-./",
        "\u0660\u0661\u0662\u0663\u0664\u0665\u0666\u0667",
        "\u0668\u0669:\u061b<=>\u061f",
        "❊\u0621\u0622\u0623\u0624\u0625\u0626\u0627",
        "\u0628\u0629\u062a\u062b\u062c\u062d\u062e\u062f",
        "\u0630\u0631\u0632\u0633\u0634\u0635\u0636\u0637",
        "\u0638\u0639\u063a[\x5c]^_",
        "\u0640\u0641\u0642\u0643\u0644\u0645\u0646\u0647",
        "\u0648\u0649\u064a\u064b\u064c\u064d\u064e\u064f",
        "\u0650\u0651\u0652\u067e\u0679\u0686\u06d5\u06a4",
        "\u06af\u0688\u0691\x7b|\x7d\u0698\u06d2"],
    above
      ["mac_croatian"]
      ["ÄÅÇÉÑÖÜáàâäãåçéèêëíìîïñóòôöõúùûü",
        "†°¢£§•¶ß®Š™´¨≠ŽØ∞±≤≥∆µ∂∑∏š∫ªºΩžø",
        "¿¡¬√ƒ≈Ć«Č…\xa0ÀÃÕŒœĐ—“”‘’÷◊\uf8ff©⁄€‹›Æ»",
        "–·‚„‰ÂćÁčÈÍÎÏÌÓÔđÒÚÛÙıˆ˜¯πË˚¸Êæˇ"],
    above
      ["mac_cyrillic", "maccyrillic"]
      ["АБВГДЕЖЗИЙКЛМНОПРСТУФХЦЧШЩЪЫЬЭЮЯ",
        "†°Ґ£§•¶І®©™Ђђ≠Ѓѓ∞±≤≥іµґЈЄєЇїЉљЊњ",
        "јЅ¬√ƒ≈∆«»…\xa0ЋћЌќѕ–—“”‘’÷„ЎўЏџ№Ёёя",
        "абвгдежзийклмнопрстуфхцчшщъыьэю€"],
    above
      ["mac_farsi"]
      ["Ä\xa0ÇÉÑÖÜáàâä\u06ba«çéèêëí…îïñó»ôö÷úùûü",
        " !\x22#$٪&\x27()*+،-./۰۱۲۳۴۵۶۷۸۹:\u061b<=>\u061f",
        "❊\u0621\u0622\u0623\u0624\u0625\u0626\u0627",
        "\u0628\u0629\u062a\u062b\u062c\u062d\u062e\u062f",
        "\u0630\u0631\u0632\u0633\u0634\u0635\u0636\u0637",
        "\u0638\u0639\u063a[\x5c]^_",
        "\u0640\u0641\u0642\u0643\u0644\u0645\u0646\u0647",
        "\u0648\u0649\u064a\u064b\u064c\u064d\u064e\u064f",
        "\u0650\u0651\u0652\u067e\u0679\u0686\u06d5\u06a4",
        "\u06af\u0688\u0691\x7b|\x7d\u0698\u06d2"],
    above
      ["mac_greek", "macgreek"]
      ["Ä¹²É³ÖÜ΅àâä΄¨çéèêë£™îï•½‰ôö¦€ùûü",
        "†ΓΔΘΛΞΠß®©ΣΪ§≠°·Α±≤≥¥ΒΕΖΗΙΚΜΦΫΨΩ",
        "άΝ¬ΟΡ≈Τ«»…\xa0ΥΧΆΈœ–―“”‘’÷ΉΊΌΎέήίόΏ",
        "ύαβψδεφγηιξκλμνοπώρστθωςχυζϊϋΐΰ\xad"],
    above
      ["mac_iceland", "maciceland"]
      ["ÄÅÇÉÑÖÜáàâäãåçéèêëíìîïñóòôöõúùûü",
        "Ý°¢£§•¶ß®©™´¨≠ÆØ∞±≤≥¥µ∂∑∏π∫ªºΩæø",
        "¿¡¬√ƒ≈∆«»…\xa0ÀÃÕŒœ–—“”‘’÷◊ÿŸ⁄€ÐðÞþ",
        "ý·‚„‰ÂÊÁËÈÍÎÏÌÓÔ\uf8ffÒÚÛÙıˆ˜¯˘˙˚¸˝˛ˇ"],
    above
      ["mac_latin2", "mac_centeuro", "maccentraleurope",
       "maclatin2"]
      ["ÄĀāÉĄÖÜáąČäčĆćéŹźĎíďĒēĖóėôöõúĚěü",
        "†°Ę£§•¶ß®©™ę¨≠ģĮįĪ≤≥īĶ∂∑łĻļĽľĹĺŅ",
        "ņŃ¬√ńŇ∆«»…\xa0ňŐÕőŌ–—“”‘’÷◊ōŔŕŘ‹›řŖ",
        "ŗŠ‚„šŚśÁŤťÍŽžŪÓÔūŮÚůŰűŲųÝýķŻŁżĢˇ"],
    above
      ["mac_roman", "macintosh", "macroman"]
      ["ÄÅÇÉÑÖÜáàâäãåçéèêëíìîïñóòôöõúùûü",
        "†°¢£§•¶ß®©™´¨≠ÆØ∞±≤≥¥µ∂∑∏π∫ªºΩæø",
        "¿¡¬√ƒ≈∆«»…\xa0ÀÃÕŒœ–—“”‘’÷◊ÿŸ⁄€‹›ﬁﬂ",
        "‡·‚„‰ÂÊÁËÈÍÎÏÌÓÔ\uf8ffÒÚÛÙıˆ˜¯˘˙˚¸˝˛ˇ"],
    above
      ["mac_romanian"]
      ["ÄÅÇÉÑÖÜáàâäãåçéèêëíìîïñóòôöõúùûü",
        "†°¢£§•¶ß®©™´¨≠ĂȘ∞±≤≥¥µ∂∑∏π∫ªºΩăș",
        "¿¡¬√ƒ≈∆«»…\xa0ÀÃÕŒœ–—“”‘’÷◊ÿŸ⁄€‹›Țț",
        "‡·‚„‰ÂÊÁËÈÍÎÏÌÓÔ\uf8ffÒÚÛÙıˆ˜¯˘˙˚¸˝˛ˇ"],
    above
      ["mac_turkish", "macturkish"]
      ["ÄÅÇÉÑÖÜáàâäãåçéèêëíìîïñóòôöõúùûü",
        "†°¢£§•¶ß®©™´¨≠ÆØ∞±≤≥¥µ∂∑∏π∫ªºΩæø",
        "¿¡¬√ƒ≈∆«»…\xa0ÀÃÕŒœ–—“”‘’÷◊ÿŸĞğİıŞş",
        "‡·‚„‰ÂÊÁËÈÍÎÏÌÓÔ\uf8ffÒÚÛÙ\uf8a0ˆ˜¯˘˙˚¸˝˛ˇ"]]

end CodePage

end SyntaxOutline
