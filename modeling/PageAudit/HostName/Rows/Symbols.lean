import PageAudit.HostName.Row

/-!
# Symbols

The foldings of symbols: letters and digits that are raised, circled, squared, wide, narrow or set
in a face of their own become plain ones, and signs that stand for words become the words.
-/

namespace PageAudit.HostName

/-- The rows of symbols. -/
def symbolRows : List Row :=
  [⟨0x2000, 1, "           "⟩, ⟨0x2011, 1, "‐"⟩, ⟨0x2017, 2, " \u0333"⟩, ⟨0x2024, 1, "."⟩,
   ⟨0x2025, 2, ".."⟩, ⟨0x2026, 3, "..."⟩, ⟨0x202f, 1, " "⟩, ⟨0x2033, 2, "′′"⟩, ⟨0x2034, 3, "′′′"⟩,
   ⟨0x2036, 2, "‵‵"⟩, ⟨0x2037, 3, "‵‵‵"⟩, ⟨0x203c, 2, "!!"⟩, ⟨0x203e, 2, " \u0305"⟩,
   ⟨0x2047, 2, "???!!?"⟩, ⟨0x2057, 4, "′′′′"⟩, ⟨0x205f, 1, " "⟩, ⟨0x2070, 1, "0i"⟩,
   ⟨0x2074, 1, "456789+−=()n0123456789+−=()"⟩, ⟨0x20a8, 2, "rs"⟩, ⟨0x2100, 3, "a/ca/s"⟩,
   ⟨0x2102, 1, "c"⟩, ⟨0x2103, 2, "°c"⟩, ⟨0x2105, 3, "c/oc/u"⟩, ⟨0x2107, 1, "ɛ"⟩, ⟨0x2109, 2, "°f"⟩,
   ⟨0x210a, 1, "ghhhhħiill℔n"⟩, ⟨0x2116, 2, "no"⟩, ⟨0x2119, 1, "pqrrr"⟩, ⟨0x2120, 2, "sm"⟩,
   ⟨0x2121, 3, "tel"⟩, ⟨0x2122, 2, "tm"⟩,
   ⟨0x2124, 1, "z℥ω℧z℩kåbc℮eefⅎmo\u05d0\u05d1\u05d2\u05d3i℺℻ℼγγπ∑⅁⅂⅃⅄ddeij"⟩,
   ⟨0x2153, 3, "1⁄32⁄31⁄52⁄53⁄54⁄51⁄65⁄61⁄83⁄85⁄87⁄8"⟩, ⟨0x215f, 2, "1⁄"⟩, ⟨0x2160, 1, "i"⟩,
   ⟨0x2161, 2, "ii"⟩, ⟨0x2162, 3, "iii"⟩, ⟨0x2163, 2, "iv"⟩, ⟨0x2164, 1, "v"⟩, ⟨0x2165, 2, "vi"⟩,
   ⟨0x2166, 3, "vii"⟩, ⟨0x2167, 4, "viii"⟩, ⟨0x2168, 2, "ix"⟩, ⟨0x2169, 1, "x"⟩, ⟨0x216a, 2, "xi"⟩,
   ⟨0x216b, 3, "xii"⟩, ⟨0x216c, 1, "lcdmi"⟩, ⟨0x2171, 2, "ii"⟩, ⟨0x2172, 3, "iii"⟩,
   ⟨0x2173, 2, "iv"⟩, ⟨0x2174, 1, "v"⟩, ⟨0x2175, 2, "vi"⟩, ⟨0x2176, 3, "vii"⟩, ⟨0x2177, 4, "viii"⟩,
   ⟨0x2178, 2, "ix"⟩, ⟨0x2179, 1, "x"⟩, ⟨0x217a, 2, "xi"⟩, ⟨0x217b, 3, "xii"⟩,
   ⟨0x217c, 1, "lcdmↀↁↂↄ"⟩, ⟨0x222c, 2, "∫∫"⟩, ⟨0x222d, 3, "∫∫∫"⟩, ⟨0x222f, 2, "∮∮"⟩,
   ⟨0x2230, 3, "∮∮∮"⟩, ⟨0x2329, 1, "〈〉"⟩, ⟨0x2460, 1, "123456789"⟩,
   ⟨0x2469, 2, "1011121314151617181920"⟩, ⟨0x2474, 3, "(1)(2)(3)(4)(5)(6)(7)(8)(9)"⟩,
   ⟨0x247d, 4, "(10)(11)(12)(13)(14)(15)(16)(17)(18)(19)(20)"⟩, ⟨0x2488, 2, "1.2.3.4.5.6.7.8.9."⟩,
   ⟨0x2491, 3, "10.11.12.13.14.15.16.17.18.19.20.(a)(b)(c)(d)(e)(f)(g)(h)(i)"⟩,
   ⟨0x24a5, 3, "(j)(k)(l)(m)(n)(o)(p)(q)(r)(s)(t)(u)(v)(w)(x)(y)(z)"⟩,
   ⟨0x24b6, 1, "abcdefghijklmnopqrstuvwxyzabcdefghijklmnopqrstuvwxyz0"⟩, ⟨0x2a0c, 4, "∫∫∫∫"⟩,
   ⟨0x2a74, 3, "::="⟩, ⟨0x2a75, 2, "=="⟩, ⟨0x2a76, 3, "==="⟩, ⟨0x2adc, 2, "⫝\u0338"⟩,
   ⟨0x3000, 1, " "⟩, ⟨0x3036, 1, "〒〷十卄卅"⟩, ⟨0x309b, 2, " \u3099 \u309a"⟩, ⟨0x309f, 2, "より"⟩,
   ⟨0x30ff, 2, "コト"⟩, ⟨0x3131, 1, "ᄀᄁᆪᄂᆬᆭᄃᄄᄅᆰᆱᆲᆳᆴᆵᄚᄆᄇᄈᄡᄉᄊᄋᄌᄍᄎᄏᄐᄑ하ᅢᅣᅤᅥᅦᅧᅨᅩᅪᅫ"⟩,
   ⟨0x315a, 1, "ᅬᅭᅮᅯᅰᅱᅲᅳᅴᅵᅠᄔᄕᇇᇈᇌᇎᇓᇗᇙᄜᇝᇟᄝᄞᄠᄢᄣᄧᄩᄫᄬᄭᄮᄯᄲᄶᅀᅇᅌᇱᇲ"⟩, ⟨0x3184, 1, "ᅗᅘᅙᆄᆅᆈᆑᆒᆔᆞᆡ"⟩,
   ⟨0x3192, 1, "一二三四上中下甲乙丙丁天地人"⟩, ⟨0x3200, 3, "(ᄀ)(ᄂ)(ᄃ)(ᄅ)(ᄆ)(ᄇ)(ᄉ)(ᄋ)(ᄌ)(ᄎ)(ᄏ)(ᄐ)(ᄑ)(ᄒ)(가)"⟩,
   ⟨0x320f, 3, "(나)(다)(라)(마)(바)(사)(아)(자)(차)(카)(타)(파)(하)(주)"⟩,
   ⟨0x3220, 3, "(一)(二)(三)(四)(五)(六)(七)(八)(九)(十)(月)(火)(水)(木)(金)"⟩,
   ⟨0x322f, 3, "(土)(日)(株)(有)(社)(名)(特)(財)(祝)(労)(代)(呼)(学)(監)(企)"⟩, ⟨0x323e, 3, "(資)(協)(祭)(休)(自)(至)"⟩,
   ⟨0x3251, 2, "212223242526272829303132333435"⟩, ⟨0x3260, 1, "ᄀᄂᄃᄅᄆᄇᄉᄋᄌᄎᄏᄐᄑᄒ가나다라마바사아자차카타파하"⟩,
   ⟨0x3280, 1, "一二三四五六七八九十月火水木金土日株有社名特財祝労秘男女適優印"⟩, ⟨0x329f, 1, "注項休写正上中下左右医宗学監企資協夜"⟩,
   ⟨0x32b1, 2, "3637383940414243444546474849501月2月3月4月5月6月7月8月9月"⟩, ⟨0x32c9, 3, "10月11月12月"⟩,
   ⟨0x32d0, 1, "アイウエオカキクケコサシスセソタチツテトナニヌネノハヒフヘホマ"⟩, ⟨0x32ef, 1, "ミムメモヤユヨラリルレロワヰヱヲ"⟩,
   ⟨0x3300, 4, "アパートアルファアンペア"⟩, ⟨0x3303, 3, "アール"⟩, ⟨0x3304, 4, "イニング"⟩, ⟨0x3305, 3, "インチウォン"⟩,
   ⟨0x3307, 5, "エスクード"⟩, ⟨0x3308, 4, "エーカー"⟩, ⟨0x3309, 3, "オンスオームカイリ"⟩, ⟨0x330c, 4, "カラットカロリー"⟩,
   ⟨0x330e, 3, "ガロンガンマ"⟩, ⟨0x3310, 2, "ギガ"⟩, ⟨0x3311, 3, "ギニー"⟩, ⟨0x3312, 4, "キュリーギルダー"⟩,
   ⟨0x3314, 2, "キロ"⟩, ⟨0x3315, 5, "キログラム"⟩, ⟨0x3316, 6, "キロメートル"⟩, ⟨0x3317, 5, "キロワット"⟩,
   ⟨0x3318, 3, "グラム"⟩, ⟨0x3319, 5, "グラムトンクルゼイロ"⟩, ⟨0x331b, 4, "クローネ"⟩, ⟨0x331c, 3, "ケースコルナコーポ"⟩,
   ⟨0x331f, 4, "サイクル"⟩, ⟨0x3320, 5, "サンチーム"⟩, ⟨0x3321, 4, "シリング"⟩, ⟨0x3322, 3, "センチセントダース"⟩,
   ⟨0x3325, 2, "デシドルトンナノ"⟩, ⟨0x3329, 3, "ノットハイツ"⟩, ⟨0x332b, 5, "パーセント"⟩, ⟨0x332c, 3, "パーツ"⟩,
   ⟨0x332d, 4, "バーレル"⟩, ⟨0x332e, 5, "ピアストル"⟩, ⟨0x332f, 3, "ピクル"⟩, ⟨0x3330, 2, "ピコビル"⟩,
   ⟨0x3332, 5, "ファラッド"⟩, ⟨0x3333, 4, "フィート"⟩, ⟨0x3334, 5, "ブッシェル"⟩, ⟨0x3335, 3, "フラン"⟩,
   ⟨0x3336, 5, "ヘクタール"⟩, ⟨0x3337, 2, "ペソ"⟩, ⟨0x3338, 3, "ペニヒヘルツペンスページベータ"⟩, ⟨0x333d, 4, "ポイント"⟩,
   ⟨0x333e, 3, "ボルト"⟩, ⟨0x333f, 2, "ホン"⟩, ⟨0x3340, 3, "ポンドホールホーン"⟩, ⟨0x3343, 4, "マイクロ"⟩,
   ⟨0x3344, 3, "マイルマッハマルク"⟩, ⟨0x3347, 5, "マンション"⟩, ⟨0x3348, 4, "ミクロン"⟩, ⟨0x3349, 2, "ミリ"⟩,
   ⟨0x334a, 5, "ミリバール"⟩, ⟨0x334b, 2, "メガ"⟩, ⟨0x334c, 4, "メガトンメートル"⟩, ⟨0x334e, 3, "ヤードヤールユアン"⟩,
   ⟨0x3351, 4, "リットル"⟩, ⟨0x3352, 2, "リラ"⟩, ⟨0x3353, 3, "ルピー"⟩, ⟨0x3354, 4, "ルーブル"⟩,
   ⟨0x3355, 2, "レム"⟩, ⟨0x3356, 5, "レントゲン"⟩, ⟨0x3357, 3, "ワット"⟩, ⟨0x3358, 2, "0点1点2点3点4点5点6点7点8点9点"⟩,
   ⟨0x3362, 3, "10点11点12点13点14点15点16点17点18点19点20点21点22点23点24点"⟩, ⟨0x3371, 3, "hpa"⟩,
   ⟨0x3372, 2, "daau"⟩, ⟨0x3374, 3, "bar"⟩, ⟨0x3375, 2, "ovpc"⟩, ⟨0x337b, 2, "平成昭和大正明治"⟩,
   ⟨0x337f, 4, "株式会社"⟩, ⟨0x3380, 2, "panaμamakakbmbgb"⟩, ⟨0x3388, 3, "cal"⟩, ⟨0x3389, 4, "kcal"⟩,
   ⟨0x338a, 2, "pfnfμfμgmgkghz"⟩, ⟨0x3391, 3, "khzmhzghzthz"⟩, ⟨0x3395, 2, "μlmldlklfmnmμmmmcmkm"⟩,
   ⟨0x339f, 3, "mm2cm2"⟩, ⟨0x33a1, 2, "m2"⟩, ⟨0x33a2, 3, "km2mm3cm3"⟩, ⟨0x33a5, 2, "m3"⟩,
   ⟨0x33a6, 3, "km3m∕s"⟩, ⟨0x33a8, 4, "m∕s2"⟩, ⟨0x33a9, 2, "pa"⟩, ⟨0x33aa, 3, "kpampagparad"⟩,
   ⟨0x33ae, 5, "rad∕s"⟩, ⟨0x33af, 6, "rad∕s2"⟩, ⟨0x33b0, 2, "psnsμsmspvnvμvmvkvmvpwnwμwmwkwmwkωmω"⟩,
   ⟨0x33c2, 4, "a.m."⟩, ⟨0x33c3, 2, "bqcccd"⟩, ⟨0x33c6, 4, "c∕kg"⟩, ⟨0x33c7, 3, "co."⟩,
   ⟨0x33c8, 2, "dbgyhahpinkkkmktlmln"⟩, ⟨0x33d2, 3, "log"⟩, ⟨0x33d3, 2, "lxmb"⟩,
   ⟨0x33d5, 3, "milmol"⟩, ⟨0x33d7, 2, "ph"⟩, ⟨0x33d8, 4, "p.m."⟩, ⟨0x33d9, 3, "ppm"⟩,
   ⟨0x33da, 2, "prsrsvwb"⟩, ⟨0x33e0, 2, "1日2日3日4日5日6日7日8日9日"⟩,
   ⟨0x33e9, 3, "10日11日12日13日14日15日16日17日18日19日20日21日22日23日24日"⟩,
   ⟨0x33f8, 3, "25日26日27日28日29日30日31日"⟩, ⟨0xfe30, 2, ".."⟩,
   ⟨0xfe31, 1, "—–__()\x7b\x7d〔〕【】《》〈〉「」『』"⟩, ⟨0xfe49, 2, " \u0305 \u0305 \u0305 \u0305"⟩,
   ⟨0xfe4d, 1, "___,、."⟩, ⟨0xfe54, 1, ";:?!—()\x7b\x7d〔〕#&*+-<>="⟩, ⟨0xfe68, 1, "\\$%@"⟩,
   ⟨0xff01, 1, "!\x22#$%&'()*+,-./0123456789:;<=>?@abcdefghijklmnopqrstuvwxyz["⟩,
   ⟨0xff3c, 1, "\\]^_\x60abcdefghijklmnopqrstuvwxyz\x7b|\x7d~⦅⦆。「」、・ヲァ"⟩,
   ⟨0xff68, 1, "ィゥェォャュョッーアイウエオカキクケコサシスセソタチツテトナニ"⟩,
   ⟨0xff87, 1, "ヌネノハヒフヘホマミムメモヤユヨラリルレロワン\u3099\u309aᅠᄀ"⟩,
   ⟨0xffa2, 1, "ᄁᆪᄂᆬᆭᄃᄄᄅᆰᆱᆲᆳᆴᆵᄚᄆᄇᄈᄡᄉᄊᄋᄌᄍᄎᄏᄐᄑᄒ"⟩, ⟨0xffc2, 1, "ᅡᅢᅣᅤᅥᅦ"⟩, ⟨0xffca, 1, "ᅧᅨᅩᅪᅫᅬ"⟩,
   ⟨0xffd2, 1, "ᅭᅮᅯᅰᅱᅲ"⟩, ⟨0xffda, 1, "ᅳᅴᅵ"⟩, ⟨0xffe0, 1, "¢£¬"⟩, ⟨0xffe3, 2, " \u0304"⟩,
   ⟨0xffe4, 1, "¦¥₩"⟩, ⟨0xffe8, 1, "│←↑→↓■○"⟩, ⟨0x1d15e, 2, "𝅗𝅥𝅘𝅥"⟩,
   ⟨0x1d160, 3, "𝅘𝅥𝅮𝅘𝅥𝅯𝅘𝅥𝅰𝅘𝅥𝅱𝅘𝅥𝅲"⟩, ⟨0x1d1bb, 2, "𝆹𝅥𝆺𝅥"⟩, ⟨0x1d1bd, 3, "𝆹𝅥𝅮𝆺𝅥𝅮𝆹𝅥𝅯𝆺𝅥𝅯"⟩,
   ⟨0x1d400, 1, "abcdefghijklmnopqrstuvwxyzabcdefghijklmnopqrstuvwxyzabcdefghij"⟩,
   ⟨0x1d43e, 1, "klmnopqrstuvwxyzabcdefg"⟩,
   ⟨0x1d456, 1, "ijklmnopqrstuvwxyzabcdefghijklmnopqrstuvwxyzabcdefghijklmnopqr"⟩,
   ⟨0x1d494, 1, "stuvwxyza"⟩, ⟨0x1d49e, 1, "cd"⟩, ⟨0x1d4a2, 1, "g"⟩, ⟨0x1d4a5, 1, "jk"⟩,
   ⟨0x1d4a9, 1, "nopq"⟩, ⟨0x1d4ae, 1, "stuvwxyzabcd"⟩, ⟨0x1d4bb, 1, "f"⟩, ⟨0x1d4bd, 1, "hijk𝓁mn"⟩,
   ⟨0x1d4c5, 1, "pqrstuvwxyzabcdefghijklmnopqrstuvwxyzabcdefghijklmnopqrstuvwxy"⟩,
   ⟨0x1d503, 1, "zab"⟩, ⟨0x1d507, 1, "defg"⟩, ⟨0x1d50d, 1, "jklmnopq"⟩, ⟨0x1d516, 1, "stuvwxy"⟩,
   ⟨0x1d51e, 1, "abcdefghijklmnopqrstuvwxyzab"⟩, ⟨0x1d53b, 1, "defg"⟩, ⟨0x1d540, 1, "ijklm"⟩,
   ⟨0x1d546, 1, "o"⟩, ⟨0x1d54a, 1, "stuvwxy"⟩,
   ⟨0x1d552, 1, "abcdefghijklmnopqrstuvwxyzabcdefghijklmnopqrstuvwxyzabcdefghij"⟩,
   ⟨0x1d590, 1, "klmnopqrstuvwxyzabcdefghijklmnopqrstuvwxyzabcdefghijklmnopqrst"⟩,
   ⟨0x1d5ce, 1, "uvwxyzabcdefghijklmnopqrstuvwxyzabcdefghijklmnopqrstuvwxyzabcd"⟩,
   ⟨0x1d60c, 1, "efghijklmnopqrstuvwxyzabcdefghijklmnopqrstuvwxyzabcdefghijklmn"⟩,
   ⟨0x1d64a, 1, "opqrstuvwxyzabcdefghijklmnopqrstuvwxyzabcdefghijklmnopqrstuvwx"⟩,
   ⟨0x1d688, 1, "yzabcdefghijklmnopqrstuvwxyz"⟩,
   ⟨0x1d6a8, 1, "αβγδεζηθικλμνξοπρθστυφχψω∇αβγδεζηθικλμνξοπρσστυφχψω∂εθκφρπαβγδ"⟩,
   ⟨0x1d6e6, 1, "εζηθικλμνξοπρθστυφχψω∇αβγδεζηθικλμνξοπρσστυφχψω∂εθκφρπαβγδεζηθ"⟩,
   ⟨0x1d724, 1, "ικλμνξοπρθστυφχψω∇αβγδεζηθικλμνξοπρσστυφχψω∂εθκφρπαβγδεζηθικλμ"⟩,
   ⟨0x1d762, 1, "νξοπρθστυφχψω∇αβγδεζηθικλμνξοπρσστυφχψω∂εθκφρπαβγδεζηθικλμνξοπ"⟩,
   ⟨0x1d7a0, 1, "ρθστυφχψω∇αβγδεζηθικλμνξοπρσστυφχψω∂εθκφρπ"⟩,
   ⟨0x1d7ce, 1, "01234567890123456789012345678901234567890123456789"⟩]

end PageAudit.HostName
