import SyntaxOutline.Text.CodePage.Basic

/-
  Code pages of the ISO 8859 family.

  Each has the alphabet of a region above ASCII: Latin ones,
  Cyrillic, Arabic, Greek, Hebrew or Thai.  Between the two lie
  control characters.

  Key definitions include:
    * `CodePage.iso`
-/

------------------------------------------------------------
-- Pages
------------------------------------------------------------

namespace SyntaxOutline

namespace CodePage

/- The pages, each with its names. -/
def iso : List CodePage :=
  [above
      ["iso8859_2", "csisolatin2", "iso_8859_2",
       "iso_8859_2_1987", "iso_ir_101", "l2", "latin2"]
      ["\x80\x81\x82\x83\x84\x85\x86\x87\x88\x89\x8a\x8b\x8c\x8d\x8e\x8f",
        "\x90\x91\x92\x93\x94\x95\x96\x97\x98\x99\x9a\x9b\x9c\x9d\x9e\x9f",
        "\xa0Ą˘Ł¤ĽŚ§¨ŠŞŤŹ\xadŽŻ°ą˛ł´ľśˇ¸šşťź˝žż",
        "ŔÁÂĂÄĹĆÇČÉĘËĚÍÎĎĐŃŇÓÔŐÖ×ŘŮÚŰÜÝŢß",
        "ŕáâăäĺćçčéęëěíîďđńňóôőö÷řůúűüýţ˙"],
    above
      ["iso8859_3", "csisolatin3", "iso_8859_3",
       "iso_8859_3_1988", "iso_ir_109", "l3", "latin3"]
      ["\x80\x81\x82\x83\x84\x85\x86\x87\x88\x89\x8a\x8b\x8c\x8d\x8e\x8f",
        "\x90\x91\x92\x93\x94\x95\x96\x97\x98\x99\x9a\x9b\x9c\x9d\x9e\x9f",
        "\xa0Ħ˘£¤�Ĥ§¨İŞĞĴ\xad�Ż°ħ²³´µĥ·¸ışğĵ½�ż",
        "ÀÁÂ�ÄĊĈÇÈÉÊËÌÍÎÏ�ÑÒÓÔĠÖ×ĜÙÚÛÜŬŜß",
        "àáâ�äċĉçèéêëìíîï�ñòóôġö÷ĝùúûüŭŝ˙"],
    above
      ["iso8859_4", "csisolatin4", "iso_8859_4",
       "iso_8859_4_1988", "iso_ir_110", "l4", "latin4"]
      ["\x80\x81\x82\x83\x84\x85\x86\x87\x88\x89\x8a\x8b\x8c\x8d\x8e\x8f",
        "\x90\x91\x92\x93\x94\x95\x96\x97\x98\x99\x9a\x9b\x9c\x9d\x9e\x9f",
        "\xa0ĄĸŖ¤ĨĻ§¨ŠĒĢŦ\xadŽ¯°ą˛ŗ´ĩļˇ¸šēģŧŊžŋ",
        "ĀÁÂÃÄÅÆĮČÉĘËĖÍÎĪĐŅŌĶÔÕÖ×ØŲÚÛÜŨŪß",
        "āáâãäåæįčéęëėíîīđņōķôõö÷øųúûüũū˙"],
    above
      ["iso8859_5", "csisolatincyrillic", "cyrillic",
       "iso_8859_5", "iso_8859_5_1988", "iso_ir_144"]
      ["\x80\x81\x82\x83\x84\x85\x86\x87\x88\x89\x8a\x8b\x8c\x8d\x8e\x8f",
        "\x90\x91\x92\x93\x94\x95\x96\x97\x98\x99\x9a\x9b\x9c\x9d\x9e\x9f",
        "\xa0ЁЂЃЄЅІЇЈЉЊЋЌ\xadЎЏАБВГДЕЖЗИЙКЛМНОП",
        "РСТУФХЦЧШЩЪЫЬЭЮЯабвгдежзийклмноп",
        "рстуфхцчшщъыьэюя№ёђѓєѕіїјљњћќ§ўџ"],
    above
      ["iso8859_6", "arabic", "asmo_708", "csisolatinarabic",
       "ecma_114", "iso_8859_6", "iso_8859_6_1987", "iso_ir_127"]
      ["\x80\x81\x82\x83\x84\x85\x86\x87\x88\x89\x8a\x8b\x8c\x8d\x8e\x8f",
        "\x90\x91\x92\x93\x94\x95\x96\x97\x98\x99\x9a\x9b\x9c\x9d\x9e\x9f",
        "\xa0���¤�������،\xad�������������\u061b���\u061f",
        "�\u0621\u0622\u0623\u0624\u0625\u0626\u0627",
        "\u0628\u0629\u062a\u062b\u062c\u062d\u062e\u062f",
        "\u0630\u0631\u0632\u0633\u0634\u0635\u0636\u0637",
        "\u0638\u0639\u063a�����",
        "\u0640\u0641\u0642\u0643\u0644\u0645\u0646\u0647",
        "\u0648\u0649\u064a\u064b\u064c\u064d\u064e\u064f",
        "\u0650\u0651\u0652�������������"],
    above
      ["iso8859_7", "csisolatingreek", "ecma_118", "elot_928",
       "greek", "greek8", "iso_8859_7", "iso_8859_7_1987",
       "iso_ir_126"]
      ["\x80\x81\x82\x83\x84\x85\x86\x87\x88\x89\x8a\x8b\x8c\x8d\x8e\x8f",
        "\x90\x91\x92\x93\x94\x95\x96\x97\x98\x99\x9a\x9b\x9c\x9d\x9e\x9f",
        "\xa0‘’£€₯¦§¨©ͺ«¬\xad�―°±²³΄΅Ά·ΈΉΊ»Ό½ΎΏ",
        "ΐΑΒΓΔΕΖΗΘΙΚΛΜΝΞΟΠΡ�ΣΤΥΦΧΨΩΪΫάέήί",
        "ΰαβγδεζηθικλμνξοπρςστυφχψωϊϋόύώ�"],
    above
      ["iso8859_8", "csisolatinhebrew", "hebrew", "iso_8859_8",
       "iso_8859_8_1988", "iso_ir_138"]
      ["\x80\x81\x82\x83\x84\x85\x86\x87\x88\x89\x8a\x8b\x8c\x8d\x8e\x8f",
        "\x90\x91\x92\x93\x94\x95\x96\x97\x98\x99\x9a\x9b\x9c\x9d\x9e\x9f",
        "\xa0�¢£¤¥¦§¨©×«¬\xad®¯°±²³´µ¶·¸¹÷»¼½¾�",
        "�������������������������������‗",
        "\u05d0\u05d1\u05d2\u05d3\u05d4\u05d5\u05d6\u05d7",
        "\u05d8\u05d9\u05da\u05db\u05dc\u05dd\u05de\u05df",
        "\u05e0\u05e1\u05e2\u05e3\u05e4\u05e5\u05e6\u05e7",
        "\u05e8\u05e9\u05ea��\u200e\u200f�"],
    above
      ["iso8859_9", "csisolatin5", "iso_8859_9",
       "iso_8859_9_1989", "iso_ir_148", "l5", "latin5"]
      ["\x80\x81\x82\x83\x84\x85\x86\x87\x88\x89\x8a\x8b\x8c\x8d\x8e\x8f",
        "\x90\x91\x92\x93\x94\x95\x96\x97\x98\x99\x9a\x9b\x9c\x9d\x9e\x9f",
        "\xa0¡¢£¤¥¦§¨©ª«¬\xad®¯°±²³´µ¶·¸¹º»¼½¾¿",
        "ÀÁÂÃÄÅÆÇÈÉÊËÌÍÎÏĞÑÒÓÔÕÖ×ØÙÚÛÜİŞß",
        "àáâãäåæçèéêëìíîïğñòóôõö÷øùúûüışÿ"],
    above
      ["iso8859_10", "csisolatin6", "iso_8859_10",
       "iso_8859_10_1992", "iso_ir_157", "l6", "latin6"]
      ["\x80\x81\x82\x83\x84\x85\x86\x87\x88\x89\x8a\x8b\x8c\x8d\x8e\x8f",
        "\x90\x91\x92\x93\x94\x95\x96\x97\x98\x99\x9a\x9b\x9c\x9d\x9e\x9f",
        "\xa0ĄĒĢĪĨĶ§ĻĐŠŦŽ\xadŪŊ°ąēģīĩķ·ļđšŧž―ūŋ",
        "ĀÁÂÃÄÅÆĮČÉĘËĖÍÎÏÐŅŌÓÔÕÖŨØŲÚÛÜÝÞß",
        "āáâãäåæįčéęëėíîïðņōóôõöũøųúûüýþĸ"],
    above
      ["iso8859_11", "iso_8859_11", "iso_8859_11_2001", "thai"]
      ["\x80\x81\x82\x83\x84\x85\x86\x87\x88\x89\x8a\x8b\x8c\x8d\x8e\x8f",
        "\x90\x91\x92\x93\x94\x95\x96\x97\x98\x99\x9a\x9b\x9c\x9d\x9e\x9f",
        "\xa0\u0e01\u0e02\u0e03\u0e04\u0e05\u0e06\u0e07",
        "\u0e08\u0e09\u0e0a\u0e0b\u0e0c\u0e0d\u0e0e\u0e0f",
        "\u0e10\u0e11\u0e12\u0e13\u0e14\u0e15\u0e16\u0e17",
        "\u0e18\u0e19\u0e1a\u0e1b\u0e1c\u0e1d\u0e1e\u0e1f",
        "\u0e20\u0e21\u0e22\u0e23\u0e24\u0e25\u0e26\u0e27",
        "\u0e28\u0e29\u0e2a\u0e2b\u0e2c\u0e2d\u0e2e\u0e2f",
        "\u0e30\u0e31\u0e32\u0e33\u0e34\u0e35\u0e36\u0e37",
        "\u0e38\u0e39\u0e3a����\u0e3f",
        "\u0e40\u0e41\u0e42\u0e43\u0e44\u0e45\u0e46\u0e47",
        "\u0e48\u0e49\u0e4a\u0e4b\u0e4c\u0e4d\u0e4e\u0e4f",
        "\u0e50\u0e51\u0e52\u0e53\u0e54\u0e55\u0e56\u0e57",
        "\u0e58\u0e59\u0e5a\u0e5b����"],
    above
      ["iso8859_13", "iso_8859_13", "l7", "latin7"]
      ["\x80\x81\x82\x83\x84\x85\x86\x87\x88\x89\x8a\x8b\x8c\x8d\x8e\x8f",
        "\x90\x91\x92\x93\x94\x95\x96\x97\x98\x99\x9a\x9b\x9c\x9d\x9e\x9f",
        "\xa0”¢£¤„¦§Ø©Ŗ«¬\xad®Æ°±²³“µ¶·ø¹ŗ»¼½¾æ",
        "ĄĮĀĆÄÅĘĒČÉŹĖĢĶĪĻŠŃŅÓŌÕÖ×ŲŁŚŪÜŻŽß",
        "ąįāćäåęēčéźėģķīļšńņóōõö÷ųłśūüżž’"],
    above
      ["iso8859_14", "iso_8859_14", "iso_8859_14_1998",
       "iso_celtic", "iso_ir_199", "l8", "latin8"]
      ["\x80\x81\x82\x83\x84\x85\x86\x87\x88\x89\x8a\x8b\x8c\x8d\x8e\x8f",
        "\x90\x91\x92\x93\x94\x95\x96\x97\x98\x99\x9a\x9b\x9c\x9d\x9e\x9f",
        "\xa0Ḃḃ£ĊċḊ§Ẁ©ẂḋỲ\xad®ŸḞḟĠġṀṁ¶ṖẁṗẃṠỳẄẅṡ",
        "ÀÁÂÃÄÅÆÇÈÉÊËÌÍÎÏŴÑÒÓÔÕÖṪØÙÚÛÜÝŶß",
        "àáâãäåæçèéêëìíîïŵñòóôõöṫøùúûüýŷÿ"],
    above
      ["iso8859_15", "iso_8859_15", "l9", "latin9"]
      ["\x80\x81\x82\x83\x84\x85\x86\x87\x88\x89\x8a\x8b\x8c\x8d\x8e\x8f",
        "\x90\x91\x92\x93\x94\x95\x96\x97\x98\x99\x9a\x9b\x9c\x9d\x9e\x9f",
        "\xa0¡¢£€¥Š§š©ª«¬\xad®¯°±²³Žµ¶·ž¹º»ŒœŸ¿",
        "ÀÁÂÃÄÅÆÇÈÉÊËÌÍÎÏÐÑÒÓÔÕÖ×ØÙÚÛÜÝÞß",
        "àáâãäåæçèéêëìíîïðñòóôõö÷øùúûüýþÿ"],
    above
      ["iso8859_16", "iso_8859_16", "iso_8859_16_2001",
       "iso_ir_226", "l10", "latin10"]
      ["\x80\x81\x82\x83\x84\x85\x86\x87\x88\x89\x8a\x8b\x8c\x8d\x8e\x8f",
        "\x90\x91\x92\x93\x94\x95\x96\x97\x98\x99\x9a\x9b\x9c\x9d\x9e\x9f",
        "\xa0ĄąŁ€„Š§š©Ș«Ź\xadźŻ°±ČłŽ”¶·žčș»ŒœŸż",
        "ÀÁÂĂÄĆÆÇÈÉÊËÌÍÎÏĐŃÒÓÔŐÖŚŰÙÚÛÜĘȚß",
        "àáâăäćæçèéêëìíîïđńòóôőöśűùúûüęțÿ"],
    above
      ["tis_620", "iso_ir_166", "tis620", "tis_620_0",
       "tis_620_2529_0", "tis_620_2529_1"]
      ["\x80\x81\x82\x83\x84\x85\x86\x87\x88\x89\x8a\x8b\x8c\x8d\x8e\x8f",
        "\x90\x91\x92\x93\x94\x95\x96\x97\x98\x99\x9a\x9b\x9c\x9d\x9e\x9f",
        "�\u0e01\u0e02\u0e03\u0e04\u0e05\u0e06\u0e07",
        "\u0e08\u0e09\u0e0a\u0e0b\u0e0c\u0e0d\u0e0e\u0e0f",
        "\u0e10\u0e11\u0e12\u0e13\u0e14\u0e15\u0e16\u0e17",
        "\u0e18\u0e19\u0e1a\u0e1b\u0e1c\u0e1d\u0e1e\u0e1f",
        "\u0e20\u0e21\u0e22\u0e23\u0e24\u0e25\u0e26\u0e27",
        "\u0e28\u0e29\u0e2a\u0e2b\u0e2c\u0e2d\u0e2e\u0e2f",
        "\u0e30\u0e31\u0e32\u0e33\u0e34\u0e35\u0e36\u0e37",
        "\u0e38\u0e39\u0e3a����\u0e3f",
        "\u0e40\u0e41\u0e42\u0e43\u0e44\u0e45\u0e46\u0e47",
        "\u0e48\u0e49\u0e4a\u0e4b\u0e4c\u0e4d\u0e4e\u0e4f",
        "\u0e50\u0e51\u0e52\u0e53\u0e54\u0e55\u0e56\u0e57",
        "\u0e58\u0e59\u0e5a\u0e5b����"]]

end CodePage

end SyntaxOutline
