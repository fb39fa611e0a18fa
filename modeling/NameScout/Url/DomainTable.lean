import NameScout.Text.Ranges

namespace NameScout.Url

def refusedRanges : List (Nat × Nat) :=
  [
    (0x80, 0x9F), (0x600, 0x605), (0x61C, 0x61C), (0x6DD, 0x6DD), (0x70F, 0x70F), (0x890, 0x891),
    (0x8E2, 0x8E2), (0x1680, 0x1680), (0x200E, 0x200F), (0x2024, 0x2026), (0x2028, 0x202E),
    (0x2066, 0x2069), (0x2488, 0x249B), (0x2FF0, 0x2FFF), (0x31EF, 0x31EF), (0x33C2, 0x33C2),
    (0x33C7, 0x33C7), (0x33D8, 0x33D8), (0xFE12, 0xFE12), (0xFE19, 0xFE19), (0xFE30, 0xFE30),
    (0xFE52, 0xFE52), (0xFFF9, 0xFFFD), (0x110BD, 0x110BD), (0x110CD, 0x110CD),
    (0x13430, 0x1343F), (0x1F100, 0x1F100), (0xE0001, 0xE0001), (0xE0020, 0xE007F)
  ]

def ignoredRanges : List (Nat × Nat) :=
  [
    (0xAD, 0xAD), (0x34F, 0x34F), (0x115F, 0x1160), (0x17B4, 0x17B5), (0x180B, 0x180F),
    (0x200B, 0x200B), (0x2060, 0x2064), (0x206A, 0x206F), (0x3164, 0x3164), (0xFE00, 0xFE0F),
    (0xFEFF, 0xFEFF), (0xFFA0, 0xFFA0), (0x1BCA0, 0x1BCA3), (0x1D173, 0x1D17A), (0xE0100, 0xE01EF)
  ]

def foldedRuns : List Text.Run :=
  [
    ⟨0xC0, 0xD6, 1, 32⟩, ⟨0xD8, 0xDE, 1, 32⟩, ⟨0x100, 0x12E, 2, 1⟩, ⟨0x139, 0x13D, 2, 1⟩,
    ⟨0x141, 0x147, 2, 1⟩, ⟨0x14A, 0x176, 2, 1⟩, ⟨0x179, 0x17D, 2, 1⟩, ⟨0x1A0, 0x1A4, 2, 1⟩,
    ⟨0x1CD, 0x1DB, 2, 1⟩, ⟨0x1DE, 0x1EE, 2, 1⟩, ⟨0x1F8, 0x21E, 2, 1⟩, ⟨0x222, 0x232, 2, 1⟩,
    ⟨0x246, 0x24E, 2, 1⟩, ⟨0x388, 0x38A, 1, 37⟩, ⟨0x391, 0x3A1, 1, 32⟩, ⟨0x3A3, 0x3AB, 1, 32⟩,
    ⟨0x3D8, 0x3EE, 2, 1⟩, ⟨0x3FD, 0x3FF, 1, -130⟩, ⟨0x400, 0x40F, 1, 80⟩, ⟨0x410, 0x42F, 1, 32⟩,
    ⟨0x460, 0x480, 2, 1⟩, ⟨0x48A, 0x4BE, 2, 1⟩, ⟨0x4C1, 0x4CD, 2, 1⟩, ⟨0x4D0, 0x52E, 2, 1⟩,
    ⟨0x531, 0x556, 1, 48⟩, ⟨0x10A0, 0x10C5, 1, 7264⟩, ⟨0x13F8, 0x13FD, 1, -8⟩,
    ⟨0x1C90, 0x1CBA, 1, -3008⟩, ⟨0x1CBD, 0x1CBF, 1, -3008⟩, ⟨0x1D33, 0x1D3A, 1, -7372⟩,
    ⟨0x1D5D, 0x1D5F, 1, -6571⟩, ⟨0x1DA4, 0x1DA6, 1, -6972⟩, ⟨0x1DAE, 0x1DB1, 1, -6972⟩,
    ⟨0x1DBC, 0x1DBE, 1, -6956⟩, ⟨0x1E00, 0x1E94, 2, 1⟩, ⟨0x1EA0, 0x1EFE, 2, 1⟩,
    ⟨0x1F08, 0x1F0F, 1, -8⟩, ⟨0x1F18, 0x1F1D, 1, -8⟩, ⟨0x1F28, 0x1F2F, 1, -8⟩,
    ⟨0x1F38, 0x1F3F, 1, -8⟩, ⟨0x1F48, 0x1F4D, 1, -8⟩, ⟨0x1F59, 0x1F5F, 2, -8⟩,
    ⟨0x1F68, 0x1F6F, 1, -8⟩, ⟨0x2074, 0x2079, 1, -8256⟩, ⟨0x2080, 0x2089, 1, -8272⟩,
    ⟨0x2096, 0x2099, 1, -8235⟩, ⟨0x2119, 0x211B, 1, -8361⟩, ⟨0x2135, 0x2138, 1, -7013⟩,
    ⟨0x2460, 0x2468, 1, -9263⟩, ⟨0x24B6, 0x24CF, 1, -9301⟩, ⟨0x24D0, 0x24E9, 1, -9327⟩,
    ⟨0x2C00, 0x2C2F, 1, 48⟩, ⟨0x2C67, 0x2C6B, 2, 1⟩, ⟨0x2C80, 0x2CE2, 2, 1⟩,
    ⟨0x3137, 0x3139, 1, -8244⟩, ⟨0x313A, 0x313F, 1, -8074⟩, ⟨0x3141, 0x3143, 1, -8251⟩,
    ⟨0x3145, 0x314E, 1, -8252⟩, ⟨0x314F, 0x3163, 1, -8174⟩, ⟨0x3178, 0x317C, 1, -8269⟩,
    ⟨0x3184, 0x3186, 1, -8237⟩, ⟨0x3263, 0x3265, 1, -8542⟩, ⟨0x3269, 0x326D, 1, -8539⟩,
    ⟨0x32E4, 0x32E9, 1, -538⟩, ⟨0x32EE, 0x32F2, 1, -528⟩, ⟨0x32F5, 0x32FA, 1, -525⟩,
    ⟨0x32FB, 0x32FE, 1, -524⟩, ⟨0xA640, 0xA66C, 2, 1⟩, ⟨0xA680, 0xA69A, 2, 1⟩,
    ⟨0xA722, 0xA72E, 2, 1⟩, ⟨0xA732, 0xA76E, 2, 1⟩, ⟨0xA77E, 0xA786, 2, 1⟩,
    ⟨0xA796, 0xA7A8, 2, 1⟩, ⟨0xA7B4, 0xA7C2, 2, 1⟩, ⟨0xA7CC, 0xA7DA, 2, 1⟩,
    ⟨0xAB70, 0xABBF, 1, -38864⟩, ⟨0xFB24, 0xFB26, 1, -62793⟩, ⟨0xFE41, 0xFE44, 1, -52789⟩,
    ⟨0xFF01, 0xFF20, 1, -65248⟩, ⟨0xFF21, 0xFF3A, 1, -65216⟩, ⟨0xFF3B, 0xFF5E, 1, -65248⟩,
    ⟨0xFF85, 0xFF8A, 1, -52923⟩, ⟨0xFF8F, 0xFF93, 1, -52913⟩, ⟨0xFF96, 0xFF9B, 1, -52910⟩,
    ⟨0xFFA7, 0xFFA9, 1, -61092⟩, ⟨0xFFAA, 0xFFAF, 1, -60922⟩, ⟨0xFFB1, 0xFFB3, 1, -61099⟩,
    ⟨0xFFB5, 0xFFBE, 1, -61100⟩, ⟨0xFFC2, 0xFFC7, 1, -61025⟩, ⟨0xFFCA, 0xFFCF, 1, -61027⟩,
    ⟨0xFFD2, 0xFFD7, 1, -61029⟩, ⟨0xFFDA, 0xFFDC, 1, -61031⟩, ⟨0xFFE9, 0xFFEC, 1, -56921⟩,
    ⟨0x10400, 0x10427, 1, 40⟩, ⟨0x104B0, 0x104D3, 1, 40⟩, ⟨0x10570, 0x1057A, 1, 39⟩,
    ⟨0x1057C, 0x1058A, 1, 39⟩, ⟨0x1058C, 0x10592, 1, 39⟩, ⟨0x107B6, 0x107B8, 1, -67062⟩,
    ⟨0x10C80, 0x10CB2, 1, 64⟩, ⟨0x10D50, 0x10D65, 1, 32⟩, ⟨0x118A0, 0x118BF, 1, 32⟩,
    ⟨0x16E40, 0x16E5F, 1, 32⟩, ⟨0x16EA0, 0x16EB8, 1, 27⟩, ⟨0x1CCD6, 0x1CCEF, 1, -117877⟩,
    ⟨0x1CCF0, 0x1CCF9, 1, -117952⟩, ⟨0x1D400, 0x1D419, 1, -119711⟩,
    ⟨0x1D41A, 0x1D433, 1, -119737⟩, ⟨0x1D434, 0x1D44D, 1, -119763⟩,
    ⟨0x1D44E, 0x1D454, 1, -119789⟩, ⟨0x1D456, 0x1D467, 1, -119789⟩,
    ⟨0x1D468, 0x1D481, 1, -119815⟩, ⟨0x1D482, 0x1D49B, 1, -119841⟩,
    ⟨0x1D4A9, 0x1D4AC, 1, -119867⟩, ⟨0x1D4AE, 0x1D4B5, 1, -119867⟩,
    ⟨0x1D4B6, 0x1D4B9, 1, -119893⟩, ⟨0x1D4BE, 0x1D4C3, 1, -119893⟩,
    ⟨0x1D4C5, 0x1D4CF, 1, -119893⟩, ⟨0x1D4D0, 0x1D4E9, 1, -119919⟩,
    ⟨0x1D4EA, 0x1D503, 1, -119945⟩, ⟨0x1D507, 0x1D50A, 1, -119971⟩,
    ⟨0x1D50D, 0x1D514, 1, -119971⟩, ⟨0x1D516, 0x1D51C, 1, -119971⟩,
    ⟨0x1D51E, 0x1D537, 1, -119997⟩, ⟨0x1D53B, 0x1D53E, 1, -120023⟩,
    ⟨0x1D540, 0x1D544, 1, -120023⟩, ⟨0x1D54A, 0x1D550, 1, -120023⟩,
    ⟨0x1D552, 0x1D56B, 1, -120049⟩, ⟨0x1D56C, 0x1D585, 1, -120075⟩,
    ⟨0x1D586, 0x1D59F, 1, -120101⟩, ⟨0x1D5A0, 0x1D5B9, 1, -120127⟩,
    ⟨0x1D5BA, 0x1D5D3, 1, -120153⟩, ⟨0x1D5D4, 0x1D5ED, 1, -120179⟩,
    ⟨0x1D5EE, 0x1D607, 1, -120205⟩, ⟨0x1D608, 0x1D621, 1, -120231⟩,
    ⟨0x1D622, 0x1D63B, 1, -120257⟩, ⟨0x1D63C, 0x1D655, 1, -120283⟩,
    ⟨0x1D656, 0x1D66F, 1, -120309⟩, ⟨0x1D670, 0x1D689, 1, -120335⟩,
    ⟨0x1D68A, 0x1D6A3, 1, -120361⟩, ⟨0x1D6A8, 0x1D6B8, 1, -119543⟩,
    ⟨0x1D6BA, 0x1D6C0, 1, -119543⟩, ⟨0x1D6C2, 0x1D6D2, 1, -119569⟩,
    ⟨0x1D6D4, 0x1D6DA, 1, -119569⟩, ⟨0x1D6E2, 0x1D6F2, 1, -119601⟩,
    ⟨0x1D6F4, 0x1D6FA, 1, -119601⟩, ⟨0x1D6FC, 0x1D70C, 1, -119627⟩,
    ⟨0x1D70E, 0x1D714, 1, -119627⟩, ⟨0x1D71C, 0x1D72C, 1, -119659⟩,
    ⟨0x1D72E, 0x1D734, 1, -119659⟩, ⟨0x1D736, 0x1D746, 1, -119685⟩,
    ⟨0x1D748, 0x1D74E, 1, -119685⟩, ⟨0x1D756, 0x1D766, 1, -119717⟩,
    ⟨0x1D768, 0x1D76E, 1, -119717⟩, ⟨0x1D770, 0x1D780, 1, -119743⟩,
    ⟨0x1D782, 0x1D788, 1, -119743⟩, ⟨0x1D790, 0x1D7A0, 1, -119775⟩,
    ⟨0x1D7A2, 0x1D7A8, 1, -119775⟩, ⟨0x1D7AA, 0x1D7BA, 1, -119801⟩,
    ⟨0x1D7BC, 0x1D7C2, 1, -119801⟩, ⟨0x1D7CE, 0x1D7D7, 1, -120734⟩,
    ⟨0x1D7D8, 0x1D7E1, 1, -120744⟩, ⟨0x1D7E2, 0x1D7EB, 1, -120754⟩,
    ⟨0x1D7EC, 0x1D7F5, 1, -120764⟩, ⟨0x1D7F6, 0x1D7FF, 1, -120774⟩,
    ⟨0x1E030, 0x1E038, 1, -121856⟩, ⟨0x1E039, 0x1E03B, 1, -121855⟩,
    ⟨0x1E03C, 0x1E046, 1, -121854⟩, ⟨0x1E051, 0x1E059, 1, -121889⟩,
    ⟨0x1E05F, 0x1E064, 1, -121884⟩, ⟨0x1E900, 0x1E921, 1, 34⟩, ⟨0x1EE0A, 0x1EE0D, 1, -124871⟩,
    ⟨0x1EE2A, 0x1EE2D, 1, -124903⟩, ⟨0x1EE8B, 0x1EE8D, 1, -124999⟩,
    ⟨0x1EEAB, 0x1EEAD, 1, -125031⟩, ⟨0x1F130, 0x1F149, 1, -127183⟩, ⟨0x1FBF0, 0x1FBF9, 1, -129984⟩
  ]

def foldedLetters : List (Nat × String) :=
  [
    (0xA0, " "), (0xAA, "a"), (0xB2, "23"), (0xB5, "μ"), (0xB9, "1o"), (0x134, "ĵ"), (0x136, "ķ"),
    (0x178, "ÿ"), (0x17F, "s"), (0x181, "ɓƃ"), (0x184, "ƅ"), (0x186, "ɔƈ"), (0x189, "ɖɗƌ"),
    (0x18E, "ǝəɛƒ"), (0x193, "ɠɣ"), (0x196, "ɩɨƙ"), (0x19C, "ɯɲ"), (0x19F, "ɵ"), (0x1A6, "ʀƨ"),
    (0x1A9, "ʃ"), (0x1AC, "ƭ"), (0x1AE, "ʈư"), (0x1B1, "ʊʋƴ"), (0x1B5, "ƶ"), (0x1B7, "ʒƹ"),
    (0x1BC, "ƽ"), (0x1F4, "ǵ"), (0x1F6, "ƕƿ"), (0x220, "ƞ"), (0x23A, "ⱥȼ"), (0x23D, "ƚⱦ"),
    (0x241, "ɂ"), (0x243, "ƀʉʌ"), (0x2B0, "hɦjrɹɻʁwy"), (0x2E0, "ɣlsxʕ"), (0x345, "ι"),
    (0x370, "ͱ"), (0x372, "ͳ"), (0x376, "ͷ"), (0x37F, "ϳ"), (0x386, "ά"), (0x38C, "ό"),
    (0x38E, "ύώ"), (0x3CF, "ϗβθυύϋφπ"), (0x3F0, "κρσ"), (0x3F4, "θε"), (0x3F7, "ϸ"),
    (0x3F9, "σϻ"), (0x4C0, "ӏ"), (0xF0C, "་"), (0x10C7, "ⴧ"), (0x10CD, "ⴭ"), (0x10FC, "ნ"),
    (0x1C80, "вдосттъѣꙋ\u1C8A"), (0x1D2C, "aæb"), (0x1D30, "deǝ"), (0x1D3C, "oȣprtuwaɐɑᴂbdeəɛɜg"),
    (0x1D4F, "kmŋoɔᴖᴗptuᴝɯvᴥ"), (0x1D60, "φχiruvβγρφχ"), (0x1D78, "н"), (0x1D9B, "ɒcɕðɜfɟɡɥ"),
    (0x1DA7, "ᵻʝɭᶅʟɱɰ"), (0x1DB2, "ɸʂʃƫʉʊᴜʋʌz"), (0x1DBF, "θ"), (0x1E9B, "ṡ"), (0x1E9E, "ß"),
    (0x1FB8, "ᾰᾱὰά"), (0x1FC8, "ὲέὴή"), (0x1FD8, "ῐῑὶί"), (0x1FE8, "ῠῡὺύῥ"), (0x1FF8, "ὸόὼώ"),
    (0x2000, "           "), (0x2011, "‐"), (0x202F, " "), (0x205F, " "), (0x2070, "0i"),
    (0x207A, "+−=()n"), (0x208A, "+−=()"), (0x2090, "aeoxəh"), (0x209A, "pst"), (0x2102, "c"),
    (0x2107, "ɛ"), (0x210A, "ghhhhħiill"), (0x2115, "n"), (0x211C, "rr"), (0x2124, "z"),
    (0x2126, "ω"), (0x2128, "z"), (0x212A, "kåbc"), (0x212F, "eefⅎmo"), (0x2139, "i"),
    (0x213C, "πγγπ∑"), (0x2145, "ddeij"), (0x2160, "i"), (0x2164, "v"), (0x2169, "x"),
    (0x216C, "lcdmi"), (0x2174, "v"), (0x2179, "x"), (0x217C, "lcdm"), (0x2183, "ↄ"),
    (0x24EA, "0"), (0x2C60, "ⱡ"), (0x2C62, "ɫᵽɽ"), (0x2C6D, "ɑɱɐɒ"), (0x2C72, "ⱳ"), (0x2C75, "ⱶ"),
    (0x2C7C, "jvȿɀ"), (0x2CEB, "ⳬ"), (0x2CED, "ⳮ"), (0x2CF2, "ⳳ"), (0x2D6F, "ⵡ"), (0x2E9F, "母"),
    (0x2EF3, "龟"), (0x2F00, "一丨丶丿乙亅二亠人儿入八冂冖冫几凵刀力勹匕匚匸十卜卩厂厶又口"),
    (0x2F1E, "囗土士夂夊夕大女子宀寸小尢尸屮山巛工己巾干幺广廴廾弋弓彐彡彳"), (0x2F3C, "心戈戶手支攴文斗斤方无日曰月木欠止歹殳毋比毛氏气水火爪父爻爿"),
    (0x2F5A, "片牙牛犬玄玉瓜瓦甘生用田疋疒癶白皮皿目矛矢石示禸禾穴立竹米糸"), (0x2F78, "缶网羊羽老而耒耳聿肉臣自至臼舌舛舟艮色艸虍虫血行衣襾見角言谷"),
    (0x2F96, "豆豕豸貝赤走足身車辛辰辵邑酉釆里金長門阜隶隹雨靑非面革韋韭音"), (0x2FB4, "頁風飛食首香馬骨高髟鬥鬯鬲鬼魚鳥鹵鹿麥麻黃黍黑黹黽鼎鼓鼠鼻齊"),
    (0x2FD2, "齒龍龜龠"), (0x3000, " "), (0x3002, "."), (0x3036, "〒"), (0x3038, "十卄卅"),
    (0x3131, "ᄀᄁᆪᄂᆬᆭ"), (0x3140, "ᄚ"), (0x3144, "ᄡ"), (0x3165, "ᄔᄕᇇᇈᇌᇎᇓᇗᇙᄜᇝᇟᄝᄞᄠᄢᄣᄧᄩ"),
    (0x317D, "ᄲᄶᅀᅇᅌᇱᇲ"), (0x3187, "ᆄᆅᆈᆑᆒᆔᆞᆡ"), (0x3192, "一二三四上中下甲乙丙丁天地人"), (0x3244, "問幼文箏"),
    (0x3260, "ᄀᄂᄃ"), (0x3266, "ᄉᄋᄌ"), (0x326E, "가나다라마바사아자차카타파하"), (0x327E, "우"),
    (0x3280, "一二三四五六七八九十月火水木金土日株有社名特財祝労秘男女適優"), (0x329E, "印注項休写正上中下左右医宗学監企資協夜"),
    (0x32D0, "アイウエオカキクケコサシスセソタチツテト"), (0x32EA, "ヒフヘホ"), (0x32F3, "ヤユ"), (0xA69C, "ъь"),
    (0xA770, "ꝯ"), (0xA779, "ꝺ"), (0xA77B, "ꝼ"), (0xA77D, "ᵹ"), (0xA78B, "ꞌ"), (0xA78D, "ɥ"),
    (0xA790, "ꞑ"), (0xA792, "ꞓ"), (0xA7AA, "ɦɜɡɬɪ"), (0xA7B0, "ʞʇʝꭓ"), (0xA7C4, "ꞔʂᶎꟈ"),
    (0xA7C9, "ꟊ"), (0xA7CB, "ɤ"), (0xA7DC, "ƛ"), (0xA7F1, "scfqꟶ"), (0xA7F8, "ħœ"),
    (0xAB5C, "ꜧꬷɫꭒ"), (0xAB69, "ʍ"), (0xFB20, "\u05E2\u05D0\u05D3\u05D4"),
    (0xFB27, "\u05E8\u05EA+"),
    (0xFB50, "\u0671\u0671\u067B\u067B\u067B\u067B\u067E\u067E\u067E\u067E"),
    (0xFB5A, "\u0680\u0680\u0680\u0680\u067A\u067A\u067A\u067A\u067F\u067F"),
    (0xFB64, "\u067F\u067F\u0679\u0679\u0679\u0679\u06A4\u06A4\u06A4\u06A4"),
    (0xFB6E, "\u06A6\u06A6\u06A6\u06A6\u0684\u0684\u0684\u0684\u0683\u0683"),
    (0xFB78, "\u0683\u0683\u0686\u0686\u0686\u0686\u0687\u0687\u0687\u0687"),
    (0xFB82, "\u068D\u068D\u068C\u068C\u068E\u068E\u0688\u0688\u0698\u0698"),
    (0xFB8C, "\u0691\u0691\u06A9\u06A9\u06A9\u06A9\u06AF\u06AF\u06AF\u06AF"),
    (0xFB96, "\u06B3\u06B3\u06B3\u06B3\u06B1\u06B1\u06B1\u06B1\u06BA\u06BA"),
    (0xFBA0, "\u06BB\u06BB\u06BB\u06BB\u06C0\u06C0\u06C1\u06C1\u06C1\u06C1"),
    (0xFBAA, "\u06BE\u06BE\u06BE\u06BE\u06D2\u06D2\u06D3\u06D3"),
    (0xFBD3, "\u06AD\u06AD\u06AD\u06AD\u06C7\u06C7\u06C6\u06C6\u06C8\u06C8"),
    (0xFBDE, "\u06CB\u06CB\u06C5\u06C5\u06C9\u06C9\u06D0\u06D0\u06D0\u06D0"),
    (0xFBE8, "\u0649\u0649"), (0xFBFC, "\u06CC\u06CC\u06CC\u06CC"), (0xFE10, ",、"),
    (0xFE13, ":;!?〖〗"), (0xFE31, "—–__()\x7b\x7d〔〕【】《》〈〉"), (0xFE47, "[]"), (0xFE4D, "___,、"),
    (0xFE54, ";:?!—()\x7b\x7d〔〕#&*+-<>="), (0xFE68, "\\$%@"),
    (0xFE80, "\u0621\u0622\u0622\u0623\u0623\u0624\u0624\u0625\u0625\u0626"),
    (0xFE8A, "\u0626\u0626\u0626\u0627\u0627\u0628\u0628\u0628\u0628\u0629"),
    (0xFE94, "\u0629\u062A\u062A\u062A\u062A\u062B\u062B\u062B\u062B\u062C"),
    (0xFE9E, "\u062C\u062C\u062C\u062D\u062D\u062D\u062D\u062E\u062E\u062E"),
    (0xFEA8, "\u062E\u062F\u062F\u0630\u0630\u0631\u0631\u0632\u0632\u0633"),
    (0xFEB2, "\u0633\u0633\u0633\u0634\u0634\u0634\u0634\u0635\u0635\u0635"),
    (0xFEBC, "\u0635\u0636\u0636\u0636\u0636\u0637\u0637\u0637\u0637\u0638"),
    (0xFEC6, "\u0638\u0638\u0638\u0639\u0639\u0639\u0639\u063A\u063A\u063A"),
    (0xFED0, "\u063A\u0641\u0641\u0641\u0641\u0642\u0642\u0642\u0642\u0643"),
    (0xFEDA, "\u0643\u0643\u0643\u0644\u0644\u0644\u0644\u0645\u0645\u0645"),
    (0xFEE4, "\u0645\u0646\u0646\u0646\u0646\u0647\u0647\u0647\u0647\u0648"),
    (0xFEEE, "\u0648\u0649\u0649\u064A\u064A\u064A\u064A"),
    (0xFF5F, "⦅⦆.「」、・ヲァィゥェォャュョッーアイウエオカキクケコサシス"), (0xFF7E, "セソタチツテト"), (0xFF8B, "ヒフヘホ"),
    (0xFF94, "ヤユ"), (0xFF9C, "ワン\u3099\u309A"), (0xFFA1, "ᄀᄁᆪᄂᆬᆭ"), (0xFFB0, "ᄚ"), (0xFFB4, "ᄡ"),
    (0xFFE0, "¢£¬"), (0xFFE4, "¦¥₩"), (0xFFE8, "│"), (0xFFED, "■○"), (0x10594, "𐖻𐖼"),
    (0x10781, "ːˑæʙɓ"), (0x10787, "ʣꭦʥʤɖɗᶑɘɞʩɤɢɠʛħʜɧʄʪʫɬ𝼄ꞎɮ𝼅ʎ𝼆øɶɷqɺ𝼈ɽɾʀʨʦꭧʧʈⱱ"),
    (0x107B2, "ʏʡʢʘ"), (0x107B9, "𝼊𝼞"), (0x1D49C, "a"), (0x1D49E, "cd"), (0x1D4A2, "g"),
    (0x1D4A5, "jk"), (0x1D4BB, "f"), (0x1D4BD, "h"), (0x1D504, "ab"), (0x1D538, "ab"),
    (0x1D546, "o"), (0x1D6A4, "ıȷ"), (0x1D6B9, "θ"), (0x1D6C1, "∇"), (0x1D6D3, "σ"),
    (0x1D6DB, "∂εθκφρπ"), (0x1D6F3, "θ"), (0x1D6FB, "∇"), (0x1D70D, "σ"), (0x1D715, "∂εθκφρπ"),
    (0x1D72D, "θ"), (0x1D735, "∇"), (0x1D747, "σ"), (0x1D74F, "∂εθκφρπ"), (0x1D767, "θ"),
    (0x1D76F, "∇"), (0x1D781, "σ"), (0x1D789, "∂εθκφρπ"), (0x1D7A1, "θ"), (0x1D7A9, "∇"),
    (0x1D7BB, "σ"), (0x1D7C3, "∂εθκφρπϝϝ"), (0x1E047, "ыэюꚉәіјөүӏ"), (0x1E05A, "клопс"),
    (0x1E065, "ъыґіѕџҫꙑұ"), (0x1EE00, "\u0627\u0628\u062C\u062F"),
    (0x1EE05, "\u0648\u0632\u062D\u0637\u064A"),
    (0x1EE0E, "\u0633\u0639\u0641\u0635\u0642\u0631\u0634\u062A\u062B\u062E"),
    (0x1EE18, "\u0630\u0636\u0638\u063A\u066E\u06BA\u06A1\u066F"), (0x1EE21, "\u0628\u062C"),
    (0x1EE24, "\u0647"), (0x1EE27, "\u062D"), (0x1EE29, "\u064A"),
    (0x1EE2E, "\u0633\u0639\u0641\u0635\u0642"), (0x1EE34, "\u0634\u062A\u062B\u062E"),
    (0x1EE39, "\u0636"), (0x1EE3B, "\u063A"), (0x1EE42, "\u062C"), (0x1EE47, "\u062D"),
    (0x1EE49, "\u064A"), (0x1EE4B, "\u0644"), (0x1EE4D, "\u0646\u0633\u0639"),
    (0x1EE51, "\u0635\u0642"), (0x1EE54, "\u0634"), (0x1EE57, "\u062E"), (0x1EE59, "\u0636"),
    (0x1EE5B, "\u063A"), (0x1EE5D, "\u06BA"), (0x1EE5F, "\u066F"), (0x1EE61, "\u0628\u062C"),
    (0x1EE64, "\u0647"), (0x1EE67, "\u062D\u0637\u064A\u0643"),
    (0x1EE6C, "\u0645\u0646\u0633\u0639\u0641\u0635\u0642"),
    (0x1EE74, "\u0634\u062A\u062B\u062E"), (0x1EE79, "\u0636\u0638\u063A\u066E"),
    (0x1EE7E, "\u06A1"),
    (0x1EE80, "\u0627\u0628\u062C\u062F\u0647\u0648\u0632\u062D\u0637\u064A"),
    (0x1EE8E, "\u0633\u0639\u0641\u0635\u0642\u0631\u0634\u062A\u062B\u062E"),
    (0x1EE98, "\u0630\u0636\u0638\u063A"), (0x1EEA1, "\u0628\u062C\u062F"),
    (0x1EEA5, "\u0648\u0632\u062D\u0637\u064A"),
    (0x1EEAE, "\u0633\u0639\u0641\u0635\u0642\u0631\u0634\u062A\u062B\u062E"),
    (0x1EEB8, "\u0630\u0636\u0638\u063A"), (0x1F12B, "cr"), (0x1F202, "サ"),
    (0x1F210, "手字双デ二多解天交映無料前後再新初終生販声吹演投捕一三遊左中"), (0x1F22E, "右指走打禁空合満有月申割営配"), (0x1F250, "得可")
  ]

def foldedTexts : List (Nat × List String) :=
  [
    (0xA8, [" \u0308"]), (0xAF, [" \u0304"]), (0xB4, [" \u0301"]), (0xB8, [" \u0327"]),
    (0xBC, ["1⁄4", "1⁄2", "3⁄4"]), (0x130, ["i\u0307"]), (0x132, ["ij", "ij"]),
    (0x13F, ["l·", "l·"]), (0x149, ["ʼn"]),
    (0x1C4, ["dž", "dž", "dž", "lj", "lj", "lj", "nj", "nj", "nj"]), (0x1F1, ["dz", "dz", "dz"]),
    (0x2D8, [" \u0306", " \u0307", " \u030A", " \u0328", " \u0303", " \u030B"]), (0x37A, [" ι"]),
    (0x384, [" \u0301", " \u0308\u0301"]), (0x587, ["եւ"]),
    (0x675, ["\u0627\u0674", "\u0648\u0674", "\u06C7\u0674", "\u064A\u0674"]),
    (0xE33, ["\u0E4Dา"]), (0xEB3, ["\u0ECDາ"]), (0xEDC, ["ຫນ", "ຫມ"]),
    (0xF77, ["\u0FB2\u0F71\u0F80"]), (0xF79, ["\u0FB3\u0F71\u0F80"]), (0x1E9A, ["aʾ"]),
    (0x1F80, ["ἀι", "ἁι", "ἂι", "ἃι", "ἄι", "ἅι", "ἆι", "ἇι", "ἀι", "ἁι", "ἂι"]),
    (0x1F8B, ["ἃι", "ἄι", "ἅι", "ἆι", "ἇι", "ἠι", "ἡι", "ἢι", "ἣι", "ἤι", "ἥι"]),
    (0x1F96, ["ἦι", "ἧι", "ἠι", "ἡι", "ἢι", "ἣι", "ἤι", "ἥι", "ἦι", "ἧι", "ὠι"]),
    (0x1FA1, ["ὡι", "ὢι", "ὣι", "ὤι", "ὥι", "ὦι", "ὧι", "ὠι", "ὡι", "ὢι", "ὣι"]),
    (0x1FAC, ["ὤι", "ὥι", "ὦι", "ὧι"]), (0x1FB2, ["ὰι", "αι", "άι"]), (0x1FB7, ["ᾶι"]),
    (0x1FBC, ["αι", " \u0313"]),
    (0x1FBF, [" \u0313", " \u0342", " \u0308\u0342", "ὴι", "ηι", "ήι"]), (0x1FC7, ["ῆι"]),
    (0x1FCC, ["ηι", " \u0313\u0300", " \u0313\u0301", " \u0313\u0342"]),
    (0x1FDD, [" \u0314\u0300", " \u0314\u0301", " \u0314\u0342"]),
    (0x1FED, [" \u0308\u0300", " \u0308\u0301"]), (0x1FF2, ["ὼι", "ωι", "ώι"]), (0x1FF7, ["ῶι"]),
    (0x1FFC, ["ωι", " \u0301", " \u0314"]), (0x2017, [" \u0333"]), (0x2033, ["′′", "′′′"]),
    (0x2036, ["‵‵", "‵‵‵"]), (0x203C, ["!!"]), (0x203E, [" \u0305"]),
    (0x2047, ["??", "?!", "!?"]), (0x2057, ["′′′′"]), (0x20A8, ["rs"]), (0x2100, ["a/c", "a/s"]),
    (0x2103, ["°c"]), (0x2105, ["c/o", "c/u"]), (0x2109, ["°f"]), (0x2116, ["no"]),
    (0x2120, ["sm", "tel", "tm"]), (0x213B, ["fax"]),
    (0x2150, ["1⁄7", "1⁄9", "1⁄10", "1⁄3", "2⁄3", "1⁄5", "2⁄5", "3⁄5", "4⁄5"]),
    (0x2159, ["1⁄6", "5⁄6", "1⁄8", "3⁄8", "5⁄8", "7⁄8", "1⁄"]), (0x2161, ["ii", "iii", "iv"]),
    (0x2165, ["vi", "vii", "viii", "ix"]), (0x216A, ["xi", "xii"]), (0x2171, ["ii", "iii", "iv"]),
    (0x2175, ["vi", "vii", "viii", "ix"]), (0x217A, ["xi", "xii"]), (0x2189, ["0⁄3"]),
    (0x222C, ["∫∫", "∫∫∫"]), (0x222F, ["∮∮", "∮∮∮"]),
    (0x2469, ["10", "11", "12", "13", "14", "15", "16", "17", "18", "19", "20"]),
    (0x2474, ["(1)", "(2)", "(3)", "(4)", "(5)", "(6)", "(7)", "(8)", "(9)"]),
    (0x247D, ["(10)", "(11)", "(12)", "(13)", "(14)", "(15)", "(16)", "(17)"]),
    (0x2485, ["(18)", "(19)", "(20)"]),
    (0x249C, ["(a)", "(b)", "(c)", "(d)", "(e)", "(f)", "(g)", "(h)", "(i)", "(j)"]),
    (0x24A6, ["(k)", "(l)", "(m)", "(n)", "(o)", "(p)", "(q)", "(r)", "(s)", "(t)"]),
    (0x24B0, ["(u)", "(v)", "(w)", "(x)", "(y)", "(z)"]), (0x2A0C, ["∫∫∫∫"]),
    (0x2A74, ["::=", "==", "==="]), (0x309B, [" \u3099", " \u309A"]), (0x309F, ["より"]),
    (0x30FF, ["コト"]),
    (0x3200, ["(ᄀ)", "(ᄂ)", "(ᄃ)", "(ᄅ)", "(ᄆ)", "(ᄇ)", "(ᄉ)", "(ᄋ)", "(ᄌ)", "(ᄎ)"]),
    (0x320A, ["(ᄏ)", "(ᄐ)", "(ᄑ)", "(ᄒ)", "(가)", "(나)", "(다)", "(라)", "(마)", "(바)"]),
    (0x3214, ["(사)", "(아)", "(자)", "(차)", "(카)", "(타)", "(파)", "(하)", "(주)"]),
    (0x321D, ["(오전)", "(오후)"]),
    (0x3220, ["(一)", "(二)", "(三)", "(四)", "(五)", "(六)", "(七)", "(八)", "(九)", "(十)"]),
    (0x322A, ["(月)", "(火)", "(水)", "(木)", "(金)", "(土)", "(日)", "(株)", "(有)", "(社)"]),
    (0x3234, ["(名)", "(特)", "(財)", "(祝)", "(労)", "(代)", "(呼)", "(学)", "(監)", "(企)"]),
    (0x323E, ["(資)", "(協)", "(祭)", "(休)", "(自)", "(至)"]),
    (0x3250, ["pte", "21", "22", "23", "24", "25", "26", "27", "28", "29", "30"]),
    (0x325B, ["31", "32", "33", "34", "35"]), (0x327C, ["참고", "주의"]),
    (0x32B1, ["36", "37", "38", "39", "40", "41", "42", "43", "44", "45", "46"]),
    (0x32BC, ["47", "48", "49", "50", "1月", "2月", "3月", "4月", "5月", "6月", "7月"]),
    (0x32C7, ["8月", "9月", "10月", "11月", "12月", "hg", "erg", "ev", "ltd"]),
    (0x32FF, ["令和", "アパート", "アルファ", "アンペア", "アール", "イニング", "インチ", "ウォン", "エスクード"]),
    (0x3308, ["エーカー", "オンス", "オーム", "カイリ", "カラット", "カロリー", "ガロン", "ガンマ", "ギガ"]),
    (0x3311, ["ギニー", "キュリー", "ギルダー", "キロ", "キログラム", "キロメートル", "キロワット", "グラム"]),
    (0x3319, ["グラムトン", "クルゼイロ", "クローネ", "ケース", "コルナ", "コーポ", "サイクル", "サンチーム"]),
    (0x3321, ["シリング", "センチ", "セント", "ダース", "デシ", "ドル", "トン", "ナノ", "ノット", "ハイツ"]),
    (0x332B, ["パーセント", "パーツ", "バーレル", "ピアストル", "ピクル", "ピコ", "ビル", "ファラッド", "フィート"]),
    (0x3334, ["ブッシェル", "フラン", "ヘクタール", "ペソ", "ペニヒ", "ヘルツ", "ペンス", "ページ", "ベータ"]),
    (0x333D, ["ポイント", "ボルト", "ホン", "ポンド", "ホール", "ホーン", "マイクロ", "マイル", "マッハ"]),
    (0x3346, ["マルク", "マンション", "ミクロン", "ミリ", "ミリバール", "メガ", "メガトン", "メートル", "ヤード"]),
    (0x334F, ["ヤール", "ユアン", "リットル", "リラ", "ルピー", "ルーブル", "レム", "レントゲン", "ワット"]),
    (0x3358, ["0点", "1点", "2点", "3点", "4点", "5点", "6点", "7点", "8点", "9点", "10点"]),
    (0x3363, ["11点", "12点", "13点", "14点", "15点", "16点", "17点", "18点", "19点", "20点"]),
    (0x336D, ["21点", "22点", "23点", "24点", "hpa", "da", "au", "bar", "ov", "pc"]),
    (0x3377, ["dm", "dm2", "dm3", "iu", "平成", "昭和", "大正", "明治", "株式会社", "pa", "na"]),
    (0x3382, ["μa", "ma", "ka", "kb", "mb", "gb", "cal", "kcal", "pf", "nf", "μf"]),
    (0x338D, ["μg", "mg", "kg", "hz", "khz", "mhz", "ghz", "thz", "μl", "ml", "dl"]),
    (0x3398, ["kl", "fm", "nm", "μm", "mm", "cm", "km", "mm2", "cm2", "m2", "km2"]),
    (0x33A3, ["mm3", "cm3", "m3", "km3", "m∕s", "m∕s2", "pa", "kpa", "mpa", "gpa"]),
    (0x33AD, ["rad", "rad∕s", "rad∕s2", "ps", "ns", "μs", "ms", "pv", "nv", "μv"]),
    (0x33B7, ["mv", "kv", "mv", "pw", "nw", "μw", "mw", "kw", "mw", "kω", "mω"]),
    (0x33C3, ["bq", "cc", "cd", "c∕kg"]),
    (0x33C8, ["db", "gy", "ha", "hp", "in", "kk", "km", "kt", "lm", "ln", "log"]),
    (0x33D3, ["lx", "mb", "mil", "mol", "ph"]),
    (0x33D9, ["ppm", "pr", "sr", "sv", "wb", "v∕m", "a∕m", "1日", "2日", "3日", "4日"]),
    (0x33E4, ["5日", "6日", "7日", "8日", "9日", "10日", "11日", "12日", "13日", "14日"]),
    (0x33EE, ["15日", "16日", "17日", "18日", "19日", "20日", "21日", "22日", "23日", "24日"]),
    (0x33F8, ["25日", "26日", "27日", "28日", "29日", "30日", "31日", "gal"]),
    (0xFB00, ["ff", "fi", "fl", "ffi", "ffl", "st", "st"]),
    (0xFB13, ["մն", "մե", "մի", "վն", "մխ"]), (0xFB4F, ["\u05D0\u05DC"]),
    (0xFBDD, ["\u06C7\u0674"]),
    (0xFBEA, ["\u0626\u0627", "\u0626\u0627", "\u0626\u06D5", "\u0626\u06D5"]),
    (0xFBEE, ["\u0626\u0648", "\u0626\u0648", "\u0626\u06C7", "\u0626\u06C7"]),
    (0xFBF2, ["\u0626\u06C6", "\u0626\u06C6", "\u0626\u06C8", "\u0626\u06C8"]),
    (0xFBF6, ["\u0626\u06D0", "\u0626\u06D0", "\u0626\u06D0", "\u0626\u0649"]),
    (0xFBFA, ["\u0626\u0649", "\u0626\u0649"]),
    (0xFC00, ["\u0626\u062C", "\u0626\u062D", "\u0626\u0645", "\u0626\u0649"]),
    (0xFC04, ["\u0626\u064A", "\u0628\u062C", "\u0628\u062D", "\u0628\u062E"]),
    (0xFC08, ["\u0628\u0645", "\u0628\u0649", "\u0628\u064A", "\u062A\u062C"]),
    (0xFC0C, ["\u062A\u062D", "\u062A\u062E", "\u062A\u0645", "\u062A\u0649"]),
    (0xFC10, ["\u062A\u064A", "\u062B\u062C", "\u062B\u0645", "\u062B\u0649"]),
    (0xFC14, ["\u062B\u064A", "\u062C\u062D", "\u062C\u0645", "\u062D\u062C"]),
    (0xFC18, ["\u062D\u0645", "\u062E\u062C", "\u062E\u062D", "\u062E\u0645"]),
    (0xFC1C, ["\u0633\u062C", "\u0633\u062D", "\u0633\u062E", "\u0633\u0645"]),
    (0xFC20, ["\u0635\u062D", "\u0635\u0645", "\u0636\u062C", "\u0636\u062D"]),
    (0xFC24, ["\u0636\u062E", "\u0636\u0645", "\u0637\u062D", "\u0637\u0645"]),
    (0xFC28, ["\u0638\u0645", "\u0639\u062C", "\u0639\u0645", "\u063A\u062C"]),
    (0xFC2C, ["\u063A\u0645", "\u0641\u062C", "\u0641\u062D", "\u0641\u062E"]),
    (0xFC30, ["\u0641\u0645", "\u0641\u0649", "\u0641\u064A", "\u0642\u062D"]),
    (0xFC34, ["\u0642\u0645", "\u0642\u0649", "\u0642\u064A", "\u0643\u0627"]),
    (0xFC38, ["\u0643\u062C", "\u0643\u062D", "\u0643\u062E", "\u0643\u0644"]),
    (0xFC3C, ["\u0643\u0645", "\u0643\u0649", "\u0643\u064A", "\u0644\u062C"]),
    (0xFC40, ["\u0644\u062D", "\u0644\u062E", "\u0644\u0645", "\u0644\u0649"]),
    (0xFC44, ["\u0644\u064A", "\u0645\u062C", "\u0645\u062D", "\u0645\u062E"]),
    (0xFC48, ["\u0645\u0645", "\u0645\u0649", "\u0645\u064A", "\u0646\u062C"]),
    (0xFC4C, ["\u0646\u062D", "\u0646\u062E", "\u0646\u0645", "\u0646\u0649"]),
    (0xFC50, ["\u0646\u064A", "\u0647\u062C", "\u0647\u0645", "\u0647\u0649"]),
    (0xFC54, ["\u0647\u064A", "\u064A\u062C", "\u064A\u062D", "\u064A\u062E"]),
    (0xFC58, ["\u064A\u0645", "\u064A\u0649", "\u064A\u064A", "\u0630\u0670"]),
    (0xFC5C, ["\u0631\u0670", "\u0649\u0670", " \u064C\u0651", " \u064D\u0651"]),
    (0xFC60, [" \u064E\u0651", " \u064F\u0651", " \u0650\u0651", " \u0651\u0670"]),
    (0xFC64, ["\u0626\u0631", "\u0626\u0632", "\u0626\u0645", "\u0626\u0646"]),
    (0xFC68, ["\u0626\u0649", "\u0626\u064A", "\u0628\u0631", "\u0628\u0632"]),
    (0xFC6C, ["\u0628\u0645", "\u0628\u0646", "\u0628\u0649", "\u0628\u064A"]),
    (0xFC70, ["\u062A\u0631", "\u062A\u0632", "\u062A\u0645", "\u062A\u0646"]),
    (0xFC74, ["\u062A\u0649", "\u062A\u064A", "\u062B\u0631", "\u062B\u0632"]),
    (0xFC78, ["\u062B\u0645", "\u062B\u0646", "\u062B\u0649", "\u062B\u064A"]),
    (0xFC7C, ["\u0641\u0649", "\u0641\u064A", "\u0642\u0649", "\u0642\u064A"]),
    (0xFC80, ["\u0643\u0627", "\u0643\u0644", "\u0643\u0645", "\u0643\u0649"]),
    (0xFC84, ["\u0643\u064A", "\u0644\u0645", "\u0644\u0649", "\u0644\u064A"]),
    (0xFC88, ["\u0645\u0627", "\u0645\u0645", "\u0646\u0631", "\u0646\u0632"]),
    (0xFC8C, ["\u0646\u0645", "\u0646\u0646", "\u0646\u0649", "\u0646\u064A"]),
    (0xFC90, ["\u0649\u0670", "\u064A\u0631", "\u064A\u0632", "\u064A\u0645"]),
    (0xFC94, ["\u064A\u0646", "\u064A\u0649", "\u064A\u064A", "\u0626\u062C"]),
    (0xFC98, ["\u0626\u062D", "\u0626\u062E", "\u0626\u0645", "\u0626\u0647"]),
    (0xFC9C, ["\u0628\u062C", "\u0628\u062D", "\u0628\u062E", "\u0628\u0645"]),
    (0xFCA0, ["\u0628\u0647", "\u062A\u062C", "\u062A\u062D", "\u062A\u062E"]),
    (0xFCA4, ["\u062A\u0645", "\u062A\u0647", "\u062B\u0645", "\u062C\u062D"]),
    (0xFCA8, ["\u062C\u0645", "\u062D\u062C", "\u062D\u0645", "\u062E\u062C"]),
    (0xFCAC, ["\u062E\u0645", "\u0633\u062C", "\u0633\u062D", "\u0633\u062E"]),
    (0xFCB0, ["\u0633\u0645", "\u0635\u062D", "\u0635\u062E", "\u0635\u0645"]),
    (0xFCB4, ["\u0636\u062C", "\u0636\u062D", "\u0636\u062E", "\u0636\u0645"]),
    (0xFCB8, ["\u0637\u062D", "\u0638\u0645", "\u0639\u062C", "\u0639\u0645"]),
    (0xFCBC, ["\u063A\u062C", "\u063A\u0645", "\u0641\u062C", "\u0641\u062D"]),
    (0xFCC0, ["\u0641\u062E", "\u0641\u0645", "\u0642\u062D", "\u0642\u0645"]),
    (0xFCC4, ["\u0643\u062C", "\u0643\u062D", "\u0643\u062E", "\u0643\u0644"]),
    (0xFCC8, ["\u0643\u0645", "\u0644\u062C", "\u0644\u062D", "\u0644\u062E"]),
    (0xFCCC, ["\u0644\u0645", "\u0644\u0647", "\u0645\u062C", "\u0645\u062D"]),
    (0xFCD0, ["\u0645\u062E", "\u0645\u0645", "\u0646\u062C", "\u0646\u062D"]),
    (0xFCD4, ["\u0646\u062E", "\u0646\u0645", "\u0646\u0647", "\u0647\u062C"]),
    (0xFCD8, ["\u0647\u0645", "\u0647\u0670", "\u064A\u062C", "\u064A\u062D"]),
    (0xFCDC, ["\u064A\u062E", "\u064A\u0645", "\u064A\u0647", "\u0626\u0645"]),
    (0xFCE0, ["\u0626\u0647", "\u0628\u0645", "\u0628\u0647", "\u062A\u0645"]),
    (0xFCE4, ["\u062A\u0647", "\u062B\u0645", "\u062B\u0647", "\u0633\u0645"]),
    (0xFCE8, ["\u0633\u0647", "\u0634\u0645", "\u0634\u0647", "\u0643\u0644"]),
    (0xFCEC, ["\u0643\u0645", "\u0644\u0645", "\u0646\u0645", "\u0646\u0647"]),
    (0xFCF0, ["\u064A\u0645", "\u064A\u0647", "\u0640\u064E\u0651"]),
    (0xFCF3, ["\u0640\u064F\u0651", "\u0640\u0650\u0651", "\u0637\u0649"]),
    (0xFCF6, ["\u0637\u064A", "\u0639\u0649", "\u0639\u064A", "\u063A\u0649"]),
    (0xFCFA, ["\u063A\u064A", "\u0633\u0649", "\u0633\u064A", "\u0634\u0649"]),
    (0xFCFE, ["\u0634\u064A", "\u062D\u0649", "\u062D\u064A", "\u062C\u0649"]),
    (0xFD02, ["\u062C\u064A", "\u062E\u0649", "\u062E\u064A", "\u0635\u0649"]),
    (0xFD06, ["\u0635\u064A", "\u0636\u0649", "\u0636\u064A", "\u0634\u062C"]),
    (0xFD0A, ["\u0634\u062D", "\u0634\u062E", "\u0634\u0645", "\u0634\u0631"]),
    (0xFD0E, ["\u0633\u0631", "\u0635\u0631", "\u0636\u0631", "\u0637\u0649"]),
    (0xFD12, ["\u0637\u064A", "\u0639\u0649", "\u0639\u064A", "\u063A\u0649"]),
    (0xFD16, ["\u063A\u064A", "\u0633\u0649", "\u0633\u064A", "\u0634\u0649"]),
    (0xFD1A, ["\u0634\u064A", "\u062D\u0649", "\u062D\u064A", "\u062C\u0649"]),
    (0xFD1E, ["\u062C\u064A", "\u062E\u0649", "\u062E\u064A", "\u0635\u0649"]),
    (0xFD22, ["\u0635\u064A", "\u0636\u0649", "\u0636\u064A", "\u0634\u062C"]),
    (0xFD26, ["\u0634\u062D", "\u0634\u062E", "\u0634\u0645", "\u0634\u0631"]),
    (0xFD2A, ["\u0633\u0631", "\u0635\u0631", "\u0636\u0631", "\u0634\u062C"]),
    (0xFD2E, ["\u0634\u062D", "\u0634\u062E", "\u0634\u0645", "\u0633\u0647"]),
    (0xFD32, ["\u0634\u0647", "\u0637\u0645", "\u0633\u062C", "\u0633\u062D"]),
    (0xFD36, ["\u0633\u062E", "\u0634\u062C", "\u0634\u062D", "\u0634\u062E"]),
    (0xFD3A, ["\u0637\u0645", "\u0638\u0645", "\u0627\u064B", "\u0627\u064B"]),
    (0xFD50, ["\u062A\u062C\u0645", "\u062A\u062D\u062C", "\u062A\u062D\u062C"]),
    (0xFD53, ["\u062A\u062D\u0645", "\u062A\u062E\u0645", "\u062A\u0645\u062C"]),
    (0xFD56, ["\u062A\u0645\u062D", "\u062A\u0645\u062E", "\u062C\u0645\u062D"]),
    (0xFD59, ["\u062C\u0645\u062D", "\u062D\u0645\u064A", "\u062D\u0645\u0649"]),
    (0xFD5C, ["\u0633\u062D\u062C", "\u0633\u062C\u062D", "\u0633\u062C\u0649"]),
    (0xFD5F, ["\u0633\u0645\u062D", "\u0633\u0645\u062D", "\u0633\u0645\u062C"]),
    (0xFD62, ["\u0633\u0645\u0645", "\u0633\u0645\u0645", "\u0635\u062D\u062D"]),
    (0xFD65, ["\u0635\u062D\u062D", "\u0635\u0645\u0645", "\u0634\u062D\u0645"]),
    (0xFD68, ["\u0634\u062D\u0645", "\u0634\u062C\u064A", "\u0634\u0645\u062E"]),
    (0xFD6B, ["\u0634\u0645\u062E", "\u0634\u0645\u0645", "\u0634\u0645\u0645"]),
    (0xFD6E, ["\u0636\u062D\u0649", "\u0636\u062E\u0645", "\u0636\u062E\u0645"]),
    (0xFD71, ["\u0637\u0645\u062D", "\u0637\u0645\u062D", "\u0637\u0645\u0645"]),
    (0xFD74, ["\u0637\u0645\u064A", "\u0639\u062C\u0645", "\u0639\u0645\u0645"]),
    (0xFD77, ["\u0639\u0645\u0645", "\u0639\u0645\u0649", "\u063A\u0645\u0645"]),
    (0xFD7A, ["\u063A\u0645\u064A", "\u063A\u0645\u0649", "\u0641\u062E\u0645"]),
    (0xFD7D, ["\u0641\u062E\u0645", "\u0642\u0645\u062D", "\u0642\u0645\u0645"]),
    (0xFD80, ["\u0644\u062D\u0645", "\u0644\u062D\u064A", "\u0644\u062D\u0649"]),
    (0xFD83, ["\u0644\u062C\u062C", "\u0644\u062C\u062C", "\u0644\u062E\u0645"]),
    (0xFD86, ["\u0644\u062E\u0645", "\u0644\u0645\u062D", "\u0644\u0645\u062D"]),
    (0xFD89, ["\u0645\u062D\u062C", "\u0645\u062D\u0645", "\u0645\u062D\u064A"]),
    (0xFD8C, ["\u0645\u062C\u062D", "\u0645\u062C\u0645", "\u0645\u062E\u062C"]),
    (0xFD8F, ["\u0645\u062E\u0645"]),
    (0xFD92, ["\u0645\u062C\u062E", "\u0647\u0645\u062C", "\u0647\u0645\u0645"]),
    (0xFD95, ["\u0646\u062D\u0645", "\u0646\u062D\u0649", "\u0646\u062C\u0645"]),
    (0xFD98, ["\u0646\u062C\u0645", "\u0646\u062C\u0649", "\u0646\u0645\u064A"]),
    (0xFD9B, ["\u0646\u0645\u0649", "\u064A\u0645\u0645", "\u064A\u0645\u0645"]),
    (0xFD9E, ["\u0628\u062E\u064A", "\u062A\u062C\u064A", "\u062A\u062C\u0649"]),
    (0xFDA1, ["\u062A\u062E\u064A", "\u062A\u062E\u0649", "\u062A\u0645\u064A"]),
    (0xFDA4, ["\u062A\u0645\u0649", "\u062C\u0645\u064A", "\u062C\u062D\u0649"]),
    (0xFDA7, ["\u062C\u0645\u0649", "\u0633\u062E\u0649", "\u0635\u062D\u064A"]),
    (0xFDAA, ["\u0634\u062D\u064A", "\u0636\u062D\u064A", "\u0644\u062C\u064A"]),
    (0xFDAD, ["\u0644\u0645\u064A", "\u064A\u062D\u064A", "\u064A\u062C\u064A"]),
    (0xFDB0, ["\u064A\u0645\u064A", "\u0645\u0645\u064A", "\u0642\u0645\u064A"]),
    (0xFDB3, ["\u0646\u062D\u064A", "\u0642\u0645\u062D", "\u0644\u062D\u0645"]),
    (0xFDB6, ["\u0639\u0645\u064A", "\u0643\u0645\u064A", "\u0646\u062C\u062D"]),
    (0xFDB9, ["\u0645\u062E\u064A", "\u0644\u062C\u0645", "\u0643\u0645\u0645"]),
    (0xFDBC, ["\u0644\u062C\u0645", "\u0646\u062C\u062D", "\u062C\u062D\u064A"]),
    (0xFDBF, ["\u062D\u062C\u064A", "\u0645\u062C\u064A", "\u0641\u0645\u064A"]),
    (0xFDC2, ["\u0628\u062D\u064A", "\u0643\u0645\u0645", "\u0639\u062C\u0645"]),
    (0xFDC5, ["\u0635\u0645\u0645", "\u0633\u062E\u064A", "\u0646\u062C\u064A"]),
    (0xFDF0, ["\u0635\u0644\u06D2", "\u0642\u0644\u06D2"]),
    (0xFDF2, ["\u0627\u0644\u0644\u0647", "\u0627\u0643\u0628\u0631"]),
    (0xFDF4, ["\u0645\u062D\u0645\u062F", "\u0635\u0644\u0639\u0645"]),
    (0xFDF6, ["\u0631\u0633\u0648\u0644", "\u0639\u0644\u064A\u0647"]),
    (0xFDF8, ["\u0648\u0633\u0644\u0645", "\u0635\u0644\u0649"]),
    (0xFDFA, ["\u0635\u0644\u0649 \u0627\u0644\u0644\u0647 \u0639\u0644\u064A\u0647 \u0648\u0633\u0644\u0645"]),
    (0xFDFB, ["\u062C\u0644 \u062C\u0644\u0627\u0644\u0647"]),
    (0xFDFC, ["\u0631\u06CC\u0627\u0644"]),
    (0xFE49, [" \u0305", " \u0305", " \u0305", " \u0305"]),
    (0xFE70, [" \u064B", "\u0640\u064B", " \u064C"]), (0xFE74, [" \u064D"]),
    (0xFE76, [" \u064E", "\u0640\u064E", " \u064F", "\u0640\u064F", " \u0650"]),
    (0xFE7B, ["\u0640\u0650", " \u0651", "\u0640\u0651", " \u0652", "\u0640\u0652"]),
    (0xFEF5, ["\u0644\u0622", "\u0644\u0622", "\u0644\u0623", "\u0644\u0623"]),
    (0xFEF9, ["\u0644\u0625", "\u0644\u0625", "\u0644\u0627", "\u0644\u0627"]),
    (0xFFE3, [" \u0304"]),
    (0x1F101, ["0,", "1,", "2,", "3,", "4,", "5,", "6,", "7,", "8,", "9,"]),
    (0x1F110, ["(a)", "(b)", "(c)", "(d)", "(e)", "(f)", "(g)", "(h)", "(i)", "(j)"]),
    (0x1F11A, ["(k)", "(l)", "(m)", "(n)", "(o)", "(p)", "(q)", "(r)", "(s)", "(t)"]),
    (0x1F124, ["(u)", "(v)", "(w)", "(x)", "(y)", "(z)", "〔s〕"]), (0x1F12D, ["cd", "wz"]),
    (0x1F14A, ["hv", "mv", "sd", "ss", "ppv", "wc"]), (0x1F16A, ["mc", "md", "mr"]),
    (0x1F190, ["dj"]), (0x1F200, ["ほか", "ココ"]),
    (0x1F240, ["〔本〕", "〔三〕", "〔二〕", "〔安〕", "〔点〕", "〔打〕", "〔盗〕", "〔勝〕", "〔敗〕"])
  ]

end NameScout.Url
