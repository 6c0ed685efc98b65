import SyntaxOutline.Text.CodePage.Basic

/-
  Code pages of text screens.

  Above ASCII they have letters in the first half, and in the
  second one the lines and blocks that draw boxes.

  Key definitions include:
    * `CodePage.dos`
-/

------------------------------------------------------------
-- Pages
------------------------------------------------------------

namespace SyntaxOutline

namespace CodePage

/- The pages, each with its names. -/
def dos : List CodePage :=
  [above
      ["cp437", "437", "cspc8codepage437", "ibm437"]
      ["ÇüéâäàåçêëèïîìÄÅÉæÆôöòûùÿÖÜ¢£¥₧ƒ",
        "áíóúñÑªº¿⌐¬½¼¡«»░▒▓│┤╡╢╖╕╣║╗╝╜╛┐",
        "└┴┬├─┼╞╟╚╔╩╦╠═╬╧╨╤╥╙╘╒╓╫╪┘┌█▄▌▐▀",
        "αßΓπΣσµτΦΘΩδ∞φε∩≡±≥≤⌠⌡÷≈°∙·√ⁿ²■\xa0"],
    above
      ["cp720"]
      ["\x80\x81éâ\x84à\x86çêëèïî\x8d\x8e\x8f",
        "\x90\u0651\u0652ô¤\u0640ûù",
        "\u0621\u0622\u0623\u0624£\u0625\u0626\u0627",
        "\u0628\u0629\u062a\u062b\u062c\u062d\u062e\u062f",
        "\u0630\u0631\u0632\u0633\u0634\u0635«»",
        "░▒▓│┤╡╢╖╕╣║╗╝╜╛┐",
        "└┴┬├─┼╞╟╚╔╩╦╠═╬╧╨╤╥╙╘╒╓╫╪┘┌█▄▌▐▀",
        "\u0636\u0637\u0638\u0639\u063a\u0641µ\u0642",
        "\u0643\u0644\u0645\u0646\u0647\u0648\u0649\u064a",
        "≡\u064b\u064c\u064d\u064e\u064f\u0650≈°∙·√ⁿ²■\xa0"],
    above
      ["cp737"]
      ["ΑΒΓΔΕΖΗΘΙΚΛΜΝΞΟΠΡΣΤΥΦΧΨΩαβγδεζηθ",
        "ικλμνξοπρσςτυφχψ░▒▓│┤╡╢╖╕╣║╗╝╜╛┐",
        "└┴┬├─┼╞╟╚╔╩╦╠═╬╧╨╤╥╙╘╒╓╫╪┘┌█▄▌▐▀",
        "ωάέήϊίόύϋώΆΈΉΊΌΎΏ±≥≤ΪΫ÷≈°∙·√ⁿ²■\xa0"],
    above
      ["cp775", "775", "cspc775baltic", "ibm775"]
      ["ĆüéāäģåćłēŖŗīŹÄÅÉæÆōöĢ¢ŚśÖÜø£Ø×¤",
        "ĀĪóŻżź”¦©®¬½¼Ł«»░▒▓│┤ĄČĘĖ╣║╗╝ĮŠ┐",
        "└┴┬├─┼ŲŪ╚╔╩╦╠═╬Žąčęėįšųūž┘┌█▄▌▐▀",
        "ÓßŌŃõÕµńĶķĻļņĒŅ’\xad±“¾¶§÷„°∙·¹³²■\xa0"],
    above
      ["cp850", "850", "cspc850multilingual", "ibm850"]
      ["ÇüéâäàåçêëèïîìÄÅÉæÆôöòûùÿÖÜø£Ø×ƒ",
        "áíóúñÑªº¿®¬½¼¡«»░▒▓│┤ÁÂÀ©╣║╗╝¢¥┐",
        "└┴┬├─┼ãÃ╚╔╩╦╠═╬¤ðÐÊËÈıÍÎÏ┘┌█▄¦Ì▀",
        "ÓßÔÒõÕµþÞÚÛÙýÝ¯´\xad±‗¾¶§÷¸°¨·¹³²■\xa0"],
    above
      ["cp852", "852", "cspcp852", "ibm852"]
      ["ÇüéâäůćçłëŐőîŹÄĆÉĹĺôöĽľŚśÖÜŤťŁ×č",
        "áíóúĄąŽžĘę¬źČş«»░▒▓│┤ÁÂĚŞ╣║╗╝Żż┐",
        "└┴┬├─┼Ăă╚╔╩╦╠═╬¤đĐĎËďŇÍÎě┘┌█▄ŢŮ▀",
        "ÓßÔŃńňŠšŔÚŕŰýÝţ´\xad˝˛ˇ˘§÷¸°¨˙űŘř■\xa0"],
    above
      ["cp855", "855", "csibm855", "ibm855"]
      ["ђЂѓЃёЁєЄѕЅіІїЇјЈљЉњЊћЋќЌўЎџЏюЮъЪ",
        "аАбБцЦдДеЕфФгГ«»░▒▓│┤хХиИ╣║╗╝йЙ┐",
        "└┴┬├─┼кК╚╔╩╦╠═╬¤лЛмМнНоОп┘┌█▄Пя▀",
        "ЯрРсСтТуУжЖвВьЬ№\xadыЫзЗшШэЭщЩчЧ§■\xa0"],
    above
      ["cp856"]
      ["\u05d0\u05d1\u05d2\u05d3\u05d4\u05d5\u05d6\u05d7",
        "\u05d8\u05d9\u05da\u05db\u05dc\u05dd\u05de\u05df",
        "\u05e0\u05e1\u05e2\u05e3\u05e4\u05e5\u05e6\u05e7",
        "\u05e8\u05e9\u05ea�£�×�",
        "���������®¬½¼�«»░▒▓│┤���©╣║╗╝¢¥┐",
        "└┴┬├─┼��╚╔╩╦╠═╬¤���������┘┌█▄¦�▀",
        "������µ�������¯´\xad±‗¾¶§÷¸°¨·¹³²■\xa0"],
    above
      ["cp857", "857", "csibm857", "ibm857"]
      ["ÇüéâäàåçêëèïîıÄÅÉæÆôöòûùİÖÜø£ØŞş",
        "áíóúñÑĞğ¿®¬½¼¡«»░▒▓│┤ÁÂÀ©╣║╗╝¢¥┐",
        "└┴┬├─┼ãÃ╚╔╩╦╠═╬¤ºªÊËÈ�ÍÎÏ┘┌█▄¦Ì▀",
        "ÓßÔÒõÕµ�×ÚÛÙìÿ¯´\xad±�¾¶§÷¸°¨·¹³²■\xa0"],
    above
      ["cp858", "858", "csibm858", "ibm858"]
      ["ÇüéâäàåçêëèïîìÄÅÉæÆôöòûùÿÖÜø£Ø×ƒ",
        "áíóúñÑªº¿®¬½¼¡«»░▒▓│┤ÁÂÀ©╣║╗╝¢¥┐",
        "└┴┬├─┼ãÃ╚╔╩╦╠═╬¤ðÐÊËÈ€ÍÎÏ┘┌█▄¦Ì▀",
        "ÓßÔÒõÕµþÞÚÛÙýÝ¯´\xad±‗¾¶§÷¸°¨·¹³²■\xa0"],
    above
      ["cp860", "860", "csibm860", "ibm860"]
      ["ÇüéâãàÁçêÊèÍÔìÃÂÉÀÈôõòÚùÌÕÜ¢£Ù₧Ó",
        "áíóúñÑªº¿Ò¬½¼¡«»░▒▓│┤╡╢╖╕╣║╗╝╜╛┐",
        "└┴┬├─┼╞╟╚╔╩╦╠═╬╧╨╤╥╙╘╒╓╫╪┘┌█▄▌▐▀",
        "αßΓπΣσµτΦΘΩδ∞φε∩≡±≥≤⌠⌡÷≈°∙·√ⁿ²■\xa0"],
    above
      ["cp861", "861", "cp_is", "csibm861", "ibm861"]
      ["ÇüéâäàåçêëèÐðÞÄÅÉæÆôöþûÝýÖÜø£Ø₧ƒ",
        "áíóúÁÍÓÚ¿⌐¬½¼¡«»░▒▓│┤╡╢╖╕╣║╗╝╜╛┐",
        "└┴┬├─┼╞╟╚╔╩╦╠═╬╧╨╤╥╙╘╒╓╫╪┘┌█▄▌▐▀",
        "αßΓπΣσµτΦΘΩδ∞φε∩≡±≥≤⌠⌡÷≈°∙·√ⁿ²■\xa0"],
    above
      ["cp862", "862", "cspc862latinhebrew", "ibm862"]
      ["\u05d0\u05d1\u05d2\u05d3\u05d4\u05d5\u05d6\u05d7",
        "\u05d8\u05d9\u05da\u05db\u05dc\u05dd\u05de\u05df",
        "\u05e0\u05e1\u05e2\u05e3\u05e4\u05e5\u05e6\u05e7",
        "\u05e8\u05e9\u05ea¢£¥₧ƒ",
        "áíóúñÑªº¿⌐¬½¼¡«»░▒▓│┤╡╢╖╕╣║╗╝╜╛┐",
        "└┴┬├─┼╞╟╚╔╩╦╠═╬╧╨╤╥╙╘╒╓╫╪┘┌█▄▌▐▀",
        "αßΓπΣσµτΦΘΩδ∞φε∩≡±≥≤⌠⌡÷≈°∙·√ⁿ²■\xa0"],
    above
      ["cp863", "863", "csibm863", "ibm863"]
      ["ÇüéâÂà¶çêëèïî‗À§ÉÈÊôËÏûù¤ÔÜ¢£ÙÛƒ",
        "¦´óú¨¸³¯Î⌐¬½¼¾«»░▒▓│┤╡╢╖╕╣║╗╝╜╛┐",
        "└┴┬├─┼╞╟╚╔╩╦╠═╬╧╨╤╥╙╘╒╓╫╪┘┌█▄▌▐▀",
        "αßΓπΣσµτΦΘΩδ∞φε∩≡±≥≤⌠⌡÷≈°∙·√ⁿ²■\xa0"],
    whole
      ["cp864", "864", "csibm864", "ibm864"]
      ["\x00\x01\x02\x03\x04\x05\x06\x07\x08\x09\x0a\x0b\x0c\x0d\x0e\x0f",
        "\x10\x11\x12\x13\x14\x15\x16\x17\x18\x19\x1a\x1b\x1c\x1d\x1e\x1f",
        " !\x22#$٪&\x27()*+,-./0123456789:;<=>?",
        "@ABCDEFGHIJKLMNOPQRSTUVWXYZ[\x5c]^_",
        "\x60abcdefghijklmnopqrstuvwxyz\x7b|\x7d~\x7f",
        "°·∙√▒─│┼┤┬├┴┐┌└┘β∞φ±½¼≈«»\ufef7\ufef8��\ufefb\ufefc�",
        "\xa0\xad\ufe82£¤\ufe84��",
        "\ufe8e\ufe8f\ufe95\ufe99،\ufe9d\ufea1\ufea5",
        "\u0660\u0661\u0662\u0663\u0664\u0665\u0666\u0667",
        "\u0668\u0669\ufed1\u061b\ufeb1\ufeb5\ufeb9\u061f",
        "¢\ufe80\ufe81\ufe83\ufe85\ufeca\ufe8b\ufe8d",
        "\ufe91\ufe93\ufe97\ufe9b\ufe9f\ufea3\ufea7\ufea9",
        "\ufeab\ufead\ufeaf\ufeb3\ufeb7\ufebb\ufebf\ufec1",
        "\ufec5\ufecb\ufecf¦¬÷×\ufec9",
        "\u0640\ufed3\ufed7\ufedb\ufedf\ufee3\ufee7\ufeeb",
        "\ufeed\ufeef\ufef3\ufebd\ufecc\ufece\ufecd\ufee1",
        "\ufe7d\u0651\ufee5\ufee9\ufeec\ufef0\ufef2\ufed0",
        "\ufed5\ufef5\ufef6\ufedd\ufed9\ufef1■�"],
    above
      ["cp865", "865", "csibm865", "ibm865"]
      ["ÇüéâäàåçêëèïîìÄÅÉæÆôöòûùÿÖÜø£Ø₧ƒ",
        "áíóúñÑªº¿⌐¬½¼¡«¤░▒▓│┤╡╢╖╕╣║╗╝╜╛┐",
        "└┴┬├─┼╞╟╚╔╩╦╠═╬╧╨╤╥╙╘╒╓╫╪┘┌█▄▌▐▀",
        "αßΓπΣσµτΦΘΩδ∞φε∩≡±≥≤⌠⌡÷≈°∙·√ⁿ²■\xa0"],
    above
      ["cp866", "866", "csibm866", "ibm866"]
      ["АБВГДЕЖЗИЙКЛМНОПРСТУФХЦЧШЩЪЫЬЭЮЯ",
        "абвгдежзийклмноп░▒▓│┤╡╢╖╕╣║╗╝╜╛┐",
        "└┴┬├─┼╞╟╚╔╩╦╠═╬╧╨╤╥╙╘╒╓╫╪┘┌█▄▌▐▀",
        "рстуфхцчшщъыьэюяЁёЄєЇїЎў°∙·√№¤■\xa0"],
    above
      ["cp869", "869", "cp_gr", "csibm869", "ibm869"]
      ["������Ά�·¬¦‘’Έ―ΉΊΪΌ��ΎΫ©Ώ²³ά£έήί",
        "ϊΐόύΑΒΓΔΕΖΗ½ΘΙ«»░▒▓│┤ΚΛΜΝ╣║╗╝ΞΟ┐",
        "└┴┬├─┼ΠΡ╚╔╩╦╠═╬ΣΤΥΦΧΨΩαβγ┘┌█▄δε▀",
        "ζηθικλμνξοπρσςτ΄\xad±υφχ§ψ΅°¨ωϋΰώ■\xa0"]]

end CodePage

end SyntaxOutline
