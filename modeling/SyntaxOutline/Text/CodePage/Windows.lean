import SyntaxOutline.Text.CodePage.Basic

/-
  Code pages of Windows.

  They fill what the ISO pages leave to control characters with
  quotes, dashes and further letters.

  Key definitions include:
    * `CodePage.windows`
-/

------------------------------------------------------------
-- Pages
------------------------------------------------------------

namespace SyntaxOutline

namespace CodePage

/- The pages, each with its names. -/
def windows : List CodePage :=
  [above
      ["cp874"]
      ["€����…�����������‘’“”•–—��������",
        "\xa0\u0e01\u0e02\u0e03\u0e04\u0e05\u0e06\u0e07",
        "\u0e08\u0e09\u0e0a\u0e0b\u0e0c\u0e0d\u0e0e\u0e0f",
        "\u0e10\u0e11\u0e12\u0e13\u0e14\u0e15\u0e16\u0e17",
        "\u0e18\u0e19\u0e1a\u0e1b\u0e1c\u0e1d\u0e1e\u0e1f",
        "\u0e20\u0e21\u0e22\u0e23\u0e24\u0e25\u0e26\u0e27",
        "\u0e28\u0e29\u0e2a\u0e2b\u0e2c\u0e2d\u0e2e\u0e2f",
        "\u0e30\u0e31\u0e32\u0e33\u0e34\u0e35\u0e36\u0e37",
        "\u0e38\u0e39\u0e3a����\u0e3f",
        "\u0e40\u0e41\u0e42\u0e43\u0e44\u0e45\u0e46\u0e47",
        "\u0e48\u0e49\u0e4a\u0e4b\u0e4c\u0e4d\u0e4e\u0e4f",
        "\u0e50\u0e51\u0e52\u0e53\u0e54\u0e55\u0e56\u0e57",
        "\u0e58\u0e59\u0e5a\u0e5b����"],
    above
      ["cp1250", "1250", "windows_1250"]
      ["€�‚�„…†‡�‰Š‹ŚŤŽŹ�‘’“”•–—�™š›śťžź",
        "\xa0ˇ˘Ł¤Ą¦§¨©Ş«¬\xad®Ż°±˛ł´µ¶·¸ąş»Ľ˝ľż",
        "ŔÁÂĂÄĹĆÇČÉĘËĚÍÎĎĐŃŇÓÔŐÖ×ŘŮÚŰÜÝŢß",
        "ŕáâăäĺćçčéęëěíîďđńňóôőö÷řůúűüýţ˙"],
    above
      ["cp1251", "1251", "windows_1251"]
      ["ЂЃ‚ѓ„…†‡€‰Љ‹ЊЌЋЏђ‘’“”•–—�™љ›њќћџ",
        "\xa0ЎўЈ¤Ґ¦§Ё©Є«¬\xad®Ї°±Ііґµ¶·ё№є»јЅѕї",
        "АБВГДЕЖЗИЙКЛМНОПРСТУФХЦЧШЩЪЫЬЭЮЯ",
        "абвгдежзийклмнопрстуфхцчшщъыьэюя"],
    above
      ["cp1252", "1252", "windows_1252"]
      ["€�‚ƒ„…†‡ˆ‰Š‹Œ�Ž��‘’“”•–—˜™š›œ�žŸ",
        "\xa0¡¢£¤¥¦§¨©ª«¬\xad®¯°±²³´µ¶·¸¹º»¼½¾¿",
        "ÀÁÂÃÄÅÆÇÈÉÊËÌÍÎÏÐÑÒÓÔÕÖ×ØÙÚÛÜÝÞß",
        "àáâãäåæçèéêëìíîïðñòóôõö÷øùúûüýþÿ"],
    above
      ["cp1253", "1253", "windows_1253"]
      ["€�‚ƒ„…†‡�‰�‹�����‘’“”•–—�™�›����",
        "\xa0΅Ά£¤¥¦§¨©�«¬\xad®―°±²³΄µ¶·ΈΉΊ»Ό½ΎΏ",
        "ΐΑΒΓΔΕΖΗΘΙΚΛΜΝΞΟΠΡ�ΣΤΥΦΧΨΩΪΫάέήί",
        "ΰαβγδεζηθικλμνξοπρςστυφχψωϊϋόύώ�"],
    above
      ["cp1254", "1254", "windows_1254"]
      ["€�‚ƒ„…†‡ˆ‰Š‹Œ����‘’“”•–—˜™š›œ��Ÿ",
        "\xa0¡¢£¤¥¦§¨©ª«¬\xad®¯°±²³´µ¶·¸¹º»¼½¾¿",
        "ÀÁÂÃÄÅÆÇÈÉÊËÌÍÎÏĞÑÒÓÔÕÖ×ØÙÚÛÜİŞß",
        "àáâãäåæçèéêëìíîïğñòóôõö÷øùúûüışÿ"],
    above
      ["cp1255", "1255", "windows_1255"]
      ["€�‚ƒ„…†‡ˆ‰�‹�����‘’“”•–—˜™�›����",
        "\xa0¡¢£₪¥¦§¨©×«¬\xad®¯°±²³´µ¶·¸¹÷»¼½¾¿",
        "\u05b0\u05b1\u05b2\u05b3\u05b4\u05b5\u05b6\u05b7",
        "\u05b8\u05b9�\u05bb\u05bc\u05bd\u05be\u05bf",
        "\u05c0\u05c1\u05c2\u05c3\u05f0\u05f1\u05f2\u05f3\u05f4�������",
        "\u05d0\u05d1\u05d2\u05d3\u05d4\u05d5\u05d6\u05d7",
        "\u05d8\u05d9\u05da\u05db\u05dc\u05dd\u05de\u05df",
        "\u05e0\u05e1\u05e2\u05e3\u05e4\u05e5\u05e6\u05e7",
        "\u05e8\u05e9\u05ea��\u200e\u200f�"],
    above
      ["cp1256", "1256", "windows_1256"]
      ["€\u067e‚ƒ„…†‡ˆ‰\u0679‹Œ\u0686\u0698\u0688",
        "\u06af‘’“”•–—\u06a9™\u0691›œ\u200c\u200d\u06ba",
        "\xa0،¢£¤¥¦§¨©\u06be«¬\xad®¯°±²³´µ¶·¸¹\u061b»¼½¾\u061f",
        "\u06c1\u0621\u0622\u0623\u0624\u0625\u0626\u0627",
        "\u0628\u0629\u062a\u062b\u062c\u062d\u062e\u062f",
        "\u0630\u0631\u0632\u0633\u0634\u0635\u0636×",
        "\u0637\u0638\u0639\u063a\u0640\u0641\u0642\u0643",
        "à\u0644â\u0645\u0646\u0647\u0648çèéêë\u0649\u064aîï",
        "\u064b\u064c\u064d\u064eô\u064f\u0650÷",
        "\u0651ù\u0652ûü\u200e\u200f\u06d2"],
    above
      ["cp1257", "1257", "windows_1257"]
      ["€�‚�„…†‡�‰�‹�¨ˇ¸�‘’“”•–—�™�›�¯˛�",
        "\xa0�¢£¤�¦§Ø©Ŗ«¬\xad®Æ°±²³´µ¶·ø¹ŗ»¼½¾æ",
        "ĄĮĀĆÄÅĘĒČÉŹĖĢĶĪĻŠŃŅÓŌÕÖ×ŲŁŚŪÜŻŽß",
        "ąįāćäåęēčéźėģķīļšńņóōõö÷ųłśūüżž˙"],
    above
      ["cp1258", "1258", "windows_1258"]
      ["€�‚ƒ„…†‡ˆ‰�‹Œ����‘’“”•–—˜™�›œ��Ÿ",
        "\xa0¡¢£¤¥¦§¨©ª«¬\xad®¯°±²³´µ¶·¸¹º»¼½¾¿",
        "ÀÁÂĂÄÅÆÇÈÉÊË\u0300ÍÎÏĐÑ\u0309ÓÔƠÖ×ØÙÚÛÜƯ\u0303ß",
        "àáâăäåæçèéêë\u0301íîïđñ\u0323óôơö÷øùúûüư₫ÿ"],
    above
      ["palmos"]
      ["€\x81‚ƒ„…†‡ˆ‰Š‹Œ♦♣♥♠‘’“”•–—˜™š\x9bœ\x9d\x9eŸ",
        "\xa0¡¢£¤¥¦§¨©ª«¬\xad®¯°±²³´µ¶·¸¹º»¼½¾¿",
        "ÀÁÂÃÄÅÆÇÈÉÊËÌÍÎÏÐÑÒÓÔÕÖ×ØÙÚÛÜÝÞß",
        "àáâãäåæçèéêëìíîïðñòóôõö÷øùúûüýþÿ"]]

end CodePage

end SyntaxOutline
