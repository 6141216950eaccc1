import PageAudit.HostName.Row

/-!
# Letters

The foldings of letters: capital letters become small ones, and letters that are others in a
special place or with a sign of their own become those.
-/

namespace PageAudit.HostName

/-- The rows of letters. -/
def letterRows : List Row :=
  [⟨0x41, 1, "abcdefghijklmnopqrstuvwxyz"⟩, ⟨0xa0, 1, " "⟩, ⟨0xa8, 2, " \u0308"⟩, ⟨0xaa, 1, "a"⟩,
   ⟨0xaf, 2, " \u0304"⟩, ⟨0xb2, 1, "23"⟩, ⟨0xb4, 2, " \u0301"⟩, ⟨0xb5, 1, "μ"⟩,
   ⟨0xb8, 2, " \u0327"⟩, ⟨0xb9, 1, "1o"⟩, ⟨0xbc, 3, "1⁄41⁄23⁄4"⟩,
   ⟨0xc0, 1, "àáâãäåæçèéêëìíîïðñòóôõö×øùúûüýþ"⟩, ⟨0xdf, 2, "ss"⟩,
   ⟨0x100, 1, "āāăăąąććĉĉċċččďďđđēēĕĕėėęęěěĝĝğğġġģģĥĥħħĩĩīīĭĭį"⟩, ⟨0x130, 2, "i\u0307"⟩,
   ⟨0x132, 2, "ijij"⟩, ⟨0x134, 1, "ĵĵķķĸĺĺļļľ"⟩, ⟨0x13f, 2, "l·l·"⟩, ⟨0x141, 1, "łłńńņņň"⟩,
   ⟨0x149, 2, "ʼn"⟩, ⟨0x14a, 1, "ŋŋōōŏŏőőœœŕŕŗŗřřśśŝŝşşššţţťťŧŧũũūūŭŭůůűűųųŵŵŷŷÿźźżżžžsƀɓƃƃƅƅɔƈ"⟩,
   ⟨0x189, 1, "ɖɗƌƌƍǝəɛƒƒɠɣƕɩɨƙƙƚƛɯɲƞɵơơƣƣƥƥʀƨƨʃƪƫƭƭʈưưʊʋƴƴƶƶʒƹƹƺƻƽ"⟩,
   ⟨0x1c4, 2, "dždždžljljljnjnjnj"⟩, ⟨0x1cd, 1, "ǎǎǐǐǒǒǔǔǖǖǘǘǚǚǜǜǝǟǟǡǡǣǣǥǥǧǧǩǩǫǫǭǭǯ"⟩,
   ⟨0x1f1, 2, "dzdzdz"⟩,
   ⟨0x1f4, 1, "ǵǵƕƿǹǹǻǻǽǽǿǿȁȁȃȃȅȅȇȇȉȉȋȋȍȍȏȏȑȑȓȓȕȕȗȗșșțțȝȝȟȟƞȡȣȣȥȥȧȧȩȩȫȫȭȭȯȯȱ"⟩,
   ⟨0x232, 1, "ȳȳȴȵȶȷȸȹⱥȼȼƚⱦȿɀɂɂƀʉʌɇɇɉɉɋɋɍɍɏ"⟩, ⟨0x2b0, 1, "hɦjrɹɻʁwy"⟩,
   ⟨0x2d8, 2, " \u0306 \u0307 \u030a \u0328 \u0303 \u030b"⟩, ⟨0x2e0, 1, "ɣlsxʕ"⟩,
   ⟨0x340, 1, "\u0300\u0301"⟩, ⟨0x343, 1, "\u0313"⟩, ⟨0x344, 2, "\u0308\u0301"⟩, ⟨0x345, 1, "ι"⟩,
   ⟨0x370, 1, "ͱͱͳͳʹ͵ͷ"⟩, ⟨0x37a, 2, " ι"⟩, ⟨0x37e, 1, ";ϳ"⟩, ⟨0x384, 2, " \u0301"⟩,
   ⟨0x385, 3, " \u0308\u0301"⟩, ⟨0x386, 1, "ά·έήί"⟩, ⟨0x38c, 1, "ό"⟩,
   ⟨0x38e, 1, "ύώΐαβγδεζηθικλμνξοπρ"⟩, ⟨0x3a3, 1, "στυφχψωϊϋ"⟩, ⟨0x3c2, 1, "σ"⟩,
   ⟨0x3cf, 1, "ϗβθυύϋφπϗϙϙϛϛϝϝϟϟϡϡϣϣϥϥϧϧϩϩϫϫϭϭϯϯκρσϳθε϶ϸϸσϻϻϼͻͼͽѐёђѓєѕіїјљњћќ"⟩,
   ⟨0x40d, 1, "ѝўџабвгдежзийклмнопрстуфхцчшщъыьэюя"⟩,
   ⟨0x460, 1, "ѡѡѣѣѥѥѧѧѩѩѫѫѭѭѯѯѱѱѳѳѵѵѷѷѹѹѻѻѽѽѿѿҁ"⟩,
   ⟨0x48a, 1, "ҋҋҍҍҏҏґґғғҕҕҗҗҙҙққҝҝҟҟҡҡңңҥҥҧҧҩҩҫҫҭҭүүұұҳҳҵҵҷҷҹҹһһҽҽҿҿӏӂӂӄӄӆӆӈ"⟩,
   ⟨0x4c9, 1, "ӊӊӌӌӎӎӏӑӑӓӓӕӕӗӗәәӛӛӝӝӟӟӡӡӣӣӥӥӧӧөөӫӫӭӭӯӯӱӱӳӳӵӵӷӷӹӹӻӻӽӽӿӿԁԁԃԃԅԅԇ"⟩,
   ⟨0x508, 1, "ԉԉԋԋԍԍԏԏԑԑԓԓԕԕԗԗԙԙԛԛԝԝԟԟԡԡԣԣԥԥԧԧԩԩԫԫԭԭԯ"⟩,
   ⟨0x531, 1, "աբգդեզէըթժիլխծկհձղճմյնշոչպջռսվտրցւփքօֆ"⟩, ⟨0x587, 2, "եւ"⟩,
   ⟨0x675, 2, "\u0627\u0674\u0648\u0674\u06c7\u0674\u064a\u0674"⟩,
   ⟨0x958, 2, "क\u093cख\u093cग\u093cज\u093cड\u093cढ\u093cफ\u093cय\u093c"⟩,
   ⟨0x9dc, 2, "ড\u09bcঢ\u09bc"⟩, ⟨0x9df, 2, "য\u09bc"⟩, ⟨0xa33, 2, "ਲ\u0a3c"⟩,
   ⟨0xa36, 2, "ਸ\u0a3c"⟩, ⟨0xa59, 2, "ਖ\u0a3cਗ\u0a3cਜ\u0a3c"⟩, ⟨0xa5e, 2, "ਫ\u0a3c"⟩,
   ⟨0xb5c, 2, "ଡ\u0b3cଢ\u0b3c"⟩, ⟨0xe33, 2, "\u0e4dา"⟩, ⟨0xeb3, 2, "\u0ecdາ"⟩, ⟨0xedc, 2, "ຫນຫມ"⟩,
   ⟨0xf0c, 1, "་"⟩, ⟨0xf43, 2, "ག\u0fb7"⟩, ⟨0xf4d, 2, "ཌ\u0fb7"⟩, ⟨0xf52, 2, "ད\u0fb7"⟩,
   ⟨0xf57, 2, "བ\u0fb7"⟩, ⟨0xf5c, 2, "ཛ\u0fb7"⟩, ⟨0xf69, 2, "ཀ\u0fb5"⟩, ⟨0xf73, 2, "\u0f71\u0f72"⟩,
   ⟨0xf75, 2, "\u0f71\u0f74\u0fb2\u0f80"⟩, ⟨0xf77, 3, "\u0fb2\u0f71\u0f80"⟩,
   ⟨0xf78, 2, "\u0fb3\u0f80"⟩, ⟨0xf79, 3, "\u0fb3\u0f71\u0f80"⟩, ⟨0xf81, 2, "\u0f71\u0f80"⟩,
   ⟨0xf93, 2, "\u0f92\u0fb7"⟩, ⟨0xf9d, 2, "\u0f9c\u0fb7"⟩, ⟨0xfa2, 2, "\u0fa1\u0fb7"⟩,
   ⟨0xfa7, 2, "\u0fa6\u0fb7"⟩, ⟨0xfac, 2, "\u0fab\u0fb7"⟩, ⟨0xfb9, 2, "\u0f90\u0fb5"⟩,
   ⟨0x10a0, 1, "ⴀⴁⴂⴃⴄⴅⴆⴇⴈⴉⴊⴋⴌⴍⴎⴏⴐⴑⴒⴓⴔⴕⴖⴗⴘⴙⴚⴛⴜⴝⴞⴟⴠⴡⴢⴣⴤⴥ"⟩, ⟨0x10c7, 1, "ⴧ"⟩, ⟨0x10cd, 1, "ⴭ"⟩,
   ⟨0x13a0, 1, "ꭰꭱꭲꭳꭴꭵꭶꭷꭸꭹꭺꭻꭼꭽꭾꭿꮀꮁꮂꮃꮄꮅꮆꮇꮈꮉꮊꮋꮌꮍꮎꮏꮐꮑꮒꮓꮔꮕꮖꮗꮘꮙꮚꮛꮜꮝꮞꮟꮠꮡꮢꮣꮤꮥꮦꮧꮨꮩꮪꮫꮬꮭ"⟩,
   ⟨0x13de, 1, "ꮮꮯꮰꮱꮲꮳꮴꮵꮶꮷꮸꮹꮺꮻꮼꮽꮾꮿᏸᏹᏺᏻᏼᏽ"⟩,
   ⟨0x1c90, 1, "აბგდევზთიკლმნოპჟრსტუფქღყშჩცძწჭხჯჰჱჲჳჴჵჶჷჸჹჺ"⟩, ⟨0x1cbd, 1, "ჽჾჿ"⟩,
   ⟨0x1e00, 1, "ḁḁḃḃḅḅḇḇḉḉḋḋḍḍḏḏḑḑḓḓḕḕḗḗḙḙḛḛḝḝḟḟḡḡḣḣḥḥḧḧḩḩḫḫḭḭḯḯḱḱḳḳḵḵḷḷḹḹḻḻḽ"⟩,
   ⟨0x1e3e, 1, "ḿḿṁṁṃṃṅṅṇṇṉṉṋṋṍṍṏṏṑṑṓṓṕṕṗṗṙṙṛṛṝṝṟṟṡṡṣṣṥṥṧṧṩṩṫṫṭṭṯṯṱṱṳṳṵṵṷṷṹṹṻ"⟩,
   ⟨0x1e7c, 1, "ṽṽṿṿẁẁẃẃẅẅẇẇẉẉẋẋẍẍẏẏẑẑẓẓẕ"⟩, ⟨0x1e9a, 2, "aʾ"⟩, ⟨0x1e9b, 1, "ṡ"⟩, ⟨0x1e9e, 2, "ss"⟩,
   ⟨0x1ea0, 1, "ạạảảấấầầẩẩẫẫậậắắằằẳẳẵẵặặẹẹẻẻẽẽếếềềểểễễệệỉỉịịọọỏỏốốồồổổỗỗộộớớờ"⟩,
   ⟨0x1ede, 1, "ởởỡỡợợụụủủứứừừửửữữựựỳỳỵỵỷỷỹỹỻỻỽỽỿ"⟩, ⟨0x1f08, 1, "ἀἁἂἃἄἅἆἇ"⟩, ⟨0x1f18, 1, "ἐἑἒἓἔἕ"⟩,
   ⟨0x1f28, 1, "ἠἡἢἣἤἥἦἧἰἱἲἳἴἵἶἷἰἱἲἳἴἵἶἷ"⟩, ⟨0x1f48, 1, "ὀὁὂὃὄὅ"⟩, ⟨0x1f59, 1, "ὑ"⟩,
   ⟨0x1f5b, 1, "ὓ"⟩, ⟨0x1f5d, 1, "ὕ"⟩, ⟨0x1f5f, 1, "ὗὠὡὢὣὤὥὦὧὠὡὢὣὤὥὦὧὰάὲέὴήὶίὸόὺύὼώ"⟩,
   ⟨0x1f80, 2, "ἀιἁιἂιἃιἄιἅιἆιἇιἀιἁιἂιἃιἄιἅιἆιἇιἠιἡιἢιἣιἤιἥιἦιἧιἠιἡιἢιἣιἤιἥιἦι"⟩,
   ⟨0x1f9f, 2, "ἧιὠιὡιὢιὣιὤιὥιὦιὧιὠιὡιὢιὣιὤιὥιὦιὧι"⟩, ⟨0x1fb2, 2, "ὰιαιάι"⟩, ⟨0x1fb7, 2, "ᾶι"⟩,
   ⟨0x1fb8, 1, "ᾰᾱὰά"⟩, ⟨0x1fbc, 2, "αι \u0313"⟩, ⟨0x1fbe, 1, "ι"⟩, ⟨0x1fbf, 2, " \u0313 \u0342"⟩,
   ⟨0x1fc1, 3, " \u0308\u0342"⟩, ⟨0x1fc2, 2, "ὴιηιήι"⟩, ⟨0x1fc7, 2, "ῆι"⟩, ⟨0x1fc8, 1, "ὲέὴή"⟩,
   ⟨0x1fcc, 2, "ηι"⟩, ⟨0x1fcd, 3, " \u0313\u0300 \u0313\u0301 \u0313\u0342"⟩, ⟨0x1fd3, 1, "ΐ"⟩,
   ⟨0x1fd8, 1, "ῐῑὶί"⟩, ⟨0x1fdd, 3, " \u0314\u0300 \u0314\u0301 \u0314\u0342"⟩,
   ⟨0x1fe3, 1, "ΰῤῥῦῧῠῡὺύῥ"⟩, ⟨0x1fed, 3, " \u0308\u0300 \u0308\u0301"⟩, ⟨0x1fef, 1, "\x60"⟩,
   ⟨0x1ff2, 2, "ὼιωιώι"⟩, ⟨0x1ff7, 2, "ῶι"⟩, ⟨0x1ff8, 1, "ὸόὼώ"⟩, ⟨0x1ffc, 2, "ωι \u0301 \u0314"⟩,
   ⟨0x2c00, 1, "ⰰⰱⰲⰳⰴⰵⰶⰷⰸⰹⰺⰻⰼⰽⰾⰿⱀⱁⱂⱃⱄⱅⱆⱇⱈⱉⱊⱋⱌⱍⱎⱏⱐⱑⱒⱓⱔⱕⱖⱗⱘⱙⱚⱛⱜⱝⱞⱟ"⟩,
   ⟨0x2c60, 1, "ⱡⱡɫᵽɽⱥⱦⱨⱨⱪⱪⱬⱬɑɱɐɒⱱⱳⱳⱴⱶⱶⱷⱸⱹⱺⱻⱼⱽȿɀⲁⲁⲃⲃⲅⲅⲇⲇⲉⲉⲋⲋⲍⲍⲏⲏⲑⲑⲓⲓⲕⲕⲗⲗⲙⲙⲛⲛⲝ"⟩,
   ⟨0x2c9e, 1, "ⲟⲟⲡⲡⲣⲣⲥⲥⲧⲧⲩⲩⲫⲫⲭⲭⲯⲯⲱⲱⲳⲳⲵⲵⲷⲷⲹⲹⲻⲻⲽⲽⲿⲿⳁⳁⳃⳃⳅⳅⳇⳇⳉⳉⳋⳋⳍⳍⳏⳏⳑⳑⳓⳓⳕⳕⳗⳗⳙⳙⳛ"⟩,
   ⟨0x2cdc, 1, "ⳝⳝⳟⳟⳡⳡⳣⳣⳤ⳥⳦⳧⳨⳩⳪ⳬⳬⳮ"⟩, ⟨0x2cf2, 1, "ⳳ"⟩,
   ⟨0xa640, 1, "ꙁꙁꙃꙃꙅꙅꙇꙇꙉꙉꙋꙋꙍꙍꙏꙏꙑꙑꙓꙓꙕꙕꙗꙗꙙꙙꙛꙛꙝꙝꙟꙟꙡꙡꙣꙣꙥꙥꙧꙧꙩꙩꙫꙫꙭ"⟩,
   ⟨0xa680, 1, "ꚁꚁꚃꚃꚅꚅꚇꚇꚉꚉꚋꚋꚍꚍꚏꚏꚑꚑꚓꚓꚕꚕꚗꚗꚙꚙꚛ"⟩,
   ⟨0xa722, 1, "ꜣꜣꜥꜥꜧꜧꜩꜩꜫꜫꜭꜭꜯꜯꜰꜱꜳꜳꜵꜵꜷꜷꜹꜹꜻꜻꜽꜽꜿꜿꝁꝁꝃꝃꝅꝅꝇꝇꝉꝉꝋꝋꝍꝍꝏꝏꝑꝑꝓꝓꝕꝕꝗꝗꝙꝙꝛꝛꝝꝝꝟ"⟩,
   ⟨0xa760, 1, "ꝡꝡꝣꝣꝥꝥꝧꝧꝩꝩꝫꝫꝭꝭꝯ"⟩,
   ⟨0xa779, 1, "ꝺꝺꝼꝼᵹꝿꝿꞁꞁꞃꞃꞅꞅꞇꞇꞈ꞉꞊ꞌꞌɥꞎꞏꞑꞑꞓꞓꞔꞕꞗꞗꞙꞙꞛꞛꞝꞝꞟꞟꞡꞡꞣꞣꞥꞥꞧꞧꞩꞩɦɜɡɬɪꞯʞʇʝꭓꞵꞵꞷ"⟩,
   ⟨0xa7b8, 1, "ꞹꞹꞻꞻꞽꞽꞿꞿꟁꟁꟃꟃꞔʂᶎꟈꟈꟊ"⟩, ⟨0xa7d0, 1, "ꟑ"⟩, ⟨0xa7d6, 1, "ꟗꟗꟙ"⟩, ⟨0xa7f5, 1, "ꟶ"⟩,
   ⟨0x10400, 1, "𐐨𐐩𐐪𐐫𐐬𐐭𐐮𐐯𐐰𐐱𐐲𐐳𐐴𐐵𐐶𐐷𐐸𐐹𐐺𐐻𐐼𐐽𐐾𐐿𐑀𐑁𐑂𐑃𐑄𐑅𐑆𐑇𐑈𐑉𐑊𐑋𐑌𐑍𐑎𐑏"⟩,
   ⟨0x104b0, 1, "𐓘𐓙𐓚𐓛𐓜𐓝𐓞𐓟𐓠𐓡𐓢𐓣𐓤𐓥𐓦𐓧𐓨𐓩𐓪𐓫𐓬𐓭𐓮𐓯𐓰𐓱𐓲𐓳𐓴𐓵𐓶𐓷𐓸𐓹𐓺𐓻"⟩, ⟨0x10570, 1, "𐖗𐖘𐖙𐖚𐖛𐖜𐖝𐖞𐖟𐖠𐖡"⟩,
   ⟨0x1057c, 1, "𐖣𐖤𐖥𐖦𐖧𐖨𐖩𐖪𐖫𐖬𐖭𐖮𐖯𐖰𐖱"⟩, ⟨0x1058c, 1, "𐖳𐖴𐖵𐖶𐖷𐖸𐖹"⟩, ⟨0x10594, 1, "𐖻𐖼"⟩,
   ⟨0x10c80, 1, "𐳀𐳁𐳂𐳃𐳄𐳅𐳆𐳇𐳈𐳉𐳊𐳋𐳌𐳍𐳎𐳏𐳐𐳑𐳒𐳓𐳔𐳕𐳖𐳗𐳘𐳙𐳚𐳛𐳜𐳝𐳞𐳟𐳠𐳡𐳢𐳣𐳤𐳥𐳦𐳧𐳨𐳩𐳪𐳫𐳬𐳭𐳮𐳯𐳰𐳱𐳲"⟩,
   ⟨0x118a0, 1, "𑣀𑣁𑣂𑣃𑣄𑣅𑣆𑣇𑣈𑣉𑣊𑣋𑣌𑣍𑣎𑣏𑣐𑣑𑣒𑣓𑣔𑣕𑣖𑣗𑣘𑣙𑣚𑣛𑣜𑣝𑣞𑣟"⟩,
   ⟨0x16e40, 1, "𖹠𖹡𖹢𖹣𖹤𖹥𖹦𖹧𖹨𖹩𖹪𖹫𖹬𖹭𖹮𖹯𖹰𖹱𖹲𖹳𖹴𖹵𖹶𖹷𖹸𖹹𖹺𖹻𖹼𖹽𖹾𖹿"⟩,
   ⟨0x1e900, 1, "𞤢𞤣𞤤𞤥𞤦𞤧𞤨𞤩𞤪𞤫𞤬𞤭𞤮𞤯𞤰𞤱𞤲𞤳𞤴𞤵𞤶𞤷𞤸𞤹𞤺𞤻𞤼𞤽𞤾𞤿𞥀𞥁𞥂𞥃"⟩]

end PageAudit.HostName
