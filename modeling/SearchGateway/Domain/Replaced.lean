import SearchGateway.Domain.Allowed

/-!
# Replaced characters

What a domain name keeps in the place of a character that it does not keep as it is: the small
letter for a capital one, plain characters for their compatibility forms, points for the full stops
of other scripts, and nothing for characters that only tell how to write others. Characters that
would give way to some that no host takes are not in the tables, and neither are those that no name
takes.
-/

namespace SearchGateway.Domain

/-- The ranges of the characters that are dropped, in ascending order. -/
def droppedRanges : List (Nat × Nat) :=
  [(0xAD, 0xAD), (0x34F, 0x34F), (0x115F, 0x1160), (0x17B4, 0x17B5), (0x180B, 0x180F),
   (0x200B, 0x200B), (0x2060, 0x2064), (0x206A, 0x206F), (0x3164, 0x3164), (0xFE00, 0xFE0F),
   (0xFEFF, 0xFEFF), (0xFFA0, 0xFFA0), (0x1BCA0, 0x1BCA3), (0x1D173, 0x1D17A), (0xE0100, 0xE01EF)]

/-- The ranges in which every character gives way to one at the same distance, in ascending order,
each with what its first character gives way to. -/
def shiftedRanges : List (Nat × Nat × Nat) :=
  [(0x41, 0x5A, 0x61), (0xC0, 0xD6, 0xE0), (0xD8, 0xDE, 0xF8), (0x391, 0x3A1, 0x3B1),
   (0x3A3, 0x3AB, 0x3C3), (0x400, 0x40F, 0x450), (0x410, 0x42F, 0x430), (0x531, 0x556, 0x561),
   (0x10A0, 0x10C5, 0x2D00), (0x13F8, 0x13FD, 0x13F0), (0x1C90, 0x1CBA, 0x10D0),
   (0x1D33, 0x1D3A, 0x67), (0x1F08, 0x1F0F, 0x1F00), (0x1F18, 0x1F1D, 0x1F10),
   (0x1F28, 0x1F2F, 0x1F20), (0x1F38, 0x1F3F, 0x1F30), (0x1F48, 0x1F4D, 0x1F40),
   (0x1F68, 0x1F6F, 0x1F60), (0x2074, 0x2079, 0x34), (0x2080, 0x2089, 0x30), (0x2460, 0x2468, 0x31),
   (0x24B6, 0x24CF, 0x61), (0x24D0, 0x24E9, 0x61), (0x2C00, 0x2C2F, 0x2C30),
   (0x313A, 0x313F, 0x11B0), (0x3145, 0x314E, 0x1109), (0x314F, 0x3163, 0x1161),
   (0x3178, 0x317C, 0x112B), (0x3269, 0x326D, 0x110E), (0x32E4, 0x32E9, 0x30CA),
   (0x32EE, 0x32F2, 0x30DE), (0x32F5, 0x32FA, 0x30E8), (0xAB70, 0xABBF, 0x13A0),
   (0xFF06, 0xFF0E, 0x26), (0xFF10, 0xFF19, 0x30), (0xFF21, 0xFF3A, 0x61), (0xFF3F, 0xFF5B, 0x5F),
   (0xFF85, 0xFF8A, 0x30CA), (0xFF8F, 0xFF93, 0x30DE), (0xFF96, 0xFF9B, 0x30E8),
   (0xFFAA, 0xFFAF, 0x11B0), (0xFFB5, 0xFFBE, 0x1109), (0xFFC2, 0xFFC7, 0x1161),
   (0xFFCA, 0xFFCF, 0x1167), (0xFFD2, 0xFFD7, 0x116D), (0x10400, 0x10427, 0x10428),
   (0x104B0, 0x104D3, 0x104D8), (0x10570, 0x1057A, 0x10597), (0x1057C, 0x1058A, 0x105A3),
   (0x1058C, 0x10592, 0x105B3), (0x10C80, 0x10CB2, 0x10CC0), (0x10D50, 0x10D65, 0x10D70),
   (0x118A0, 0x118BF, 0x118C0), (0x16E40, 0x16E5F, 0x16E60), (0x16EA0, 0x16EB8, 0x16EBB),
   (0x1CCD6, 0x1CCEF, 0x61), (0x1CCF0, 0x1CCF9, 0x30), (0x1D400, 0x1D419, 0x61),
   (0x1D41A, 0x1D433, 0x61), (0x1D434, 0x1D44D, 0x61), (0x1D44E, 0x1D454, 0x61),
   (0x1D456, 0x1D467, 0x69), (0x1D468, 0x1D481, 0x61), (0x1D482, 0x1D49B, 0x61),
   (0x1D4AE, 0x1D4B5, 0x73), (0x1D4BD, 0x1D4C3, 0x68), (0x1D4C5, 0x1D4CF, 0x70),
   (0x1D4D0, 0x1D4E9, 0x61), (0x1D4EA, 0x1D503, 0x61), (0x1D50D, 0x1D514, 0x6A),
   (0x1D516, 0x1D51C, 0x73), (0x1D51E, 0x1D537, 0x61), (0x1D540, 0x1D544, 0x69),
   (0x1D54A, 0x1D550, 0x73), (0x1D552, 0x1D56B, 0x61), (0x1D56C, 0x1D585, 0x61),
   (0x1D586, 0x1D59F, 0x61), (0x1D5A0, 0x1D5B9, 0x61), (0x1D5BA, 0x1D5D3, 0x61),
   (0x1D5D4, 0x1D5ED, 0x61), (0x1D5EE, 0x1D607, 0x61), (0x1D608, 0x1D621, 0x61),
   (0x1D622, 0x1D63B, 0x61), (0x1D63C, 0x1D655, 0x61), (0x1D656, 0x1D66F, 0x61),
   (0x1D670, 0x1D689, 0x61), (0x1D68A, 0x1D6A3, 0x61), (0x1D6A8, 0x1D6B8, 0x3B1),
   (0x1D6BA, 0x1D6C0, 0x3C3), (0x1D6C2, 0x1D6D2, 0x3B1), (0x1D6D4, 0x1D6DA, 0x3C3),
   (0x1D6E2, 0x1D6F2, 0x3B1), (0x1D6F4, 0x1D6FA, 0x3C3), (0x1D6FC, 0x1D70C, 0x3B1),
   (0x1D70E, 0x1D714, 0x3C3), (0x1D71C, 0x1D72C, 0x3B1), (0x1D72E, 0x1D734, 0x3C3),
   (0x1D736, 0x1D746, 0x3B1), (0x1D748, 0x1D74E, 0x3C3), (0x1D756, 0x1D766, 0x3B1),
   (0x1D768, 0x1D76E, 0x3C3), (0x1D770, 0x1D780, 0x3B1), (0x1D782, 0x1D788, 0x3C3),
   (0x1D790, 0x1D7A0, 0x3B1), (0x1D7A2, 0x1D7A8, 0x3C3), (0x1D7AA, 0x1D7BA, 0x3B1),
   (0x1D7BC, 0x1D7C2, 0x3C3), (0x1D7CE, 0x1D7D7, 0x30), (0x1D7D8, 0x1D7E1, 0x30),
   (0x1D7E2, 0x1D7EB, 0x30), (0x1D7EC, 0x1D7F5, 0x30), (0x1D7F6, 0x1D7FF, 0x30),
   (0x1E030, 0x1E038, 0x430), (0x1E03C, 0x1E046, 0x43E), (0x1E051, 0x1E059, 0x430),
   (0x1E05F, 0x1E064, 0x443), (0x1E900, 0x1E921, 0x1E922), (0x1F130, 0x1F149, 0x61),
   (0x1FBF0, 0x1FBF9, 0x30)]

/-- The ranges in which every other character, from the first to the last, is a capital letter that
gives way to the one behind it, in ascending order. -/
def pairedRanges : List (Nat × Nat) :=
  [(0x100, 0x12E), (0x139, 0x13D), (0x141, 0x147), (0x14A, 0x176), (0x179, 0x17D), (0x1A0, 0x1A4),
   (0x1CD, 0x1DB), (0x1DE, 0x1EE), (0x1F8, 0x21E), (0x222, 0x232), (0x246, 0x24E), (0x3D8, 0x3EE),
   (0x460, 0x480), (0x48A, 0x4BE), (0x4C1, 0x4CD), (0x4D0, 0x52E), (0x1E00, 0x1E94),
   (0x1EA0, 0x1EFE), (0x2C67, 0x2C6B), (0x2C80, 0x2CE2), (0xA640, 0xA66C), (0xA680, 0xA69A),
   (0xA722, 0xA72E), (0xA732, 0xA76E), (0xA77E, 0xA786), (0xA796, 0xA7A8), (0xA7B4, 0xA7C2),
   (0xA7CC, 0xA7DA)]

/-- What consecutive characters below the ideographs give way to, each to a single one. A row begins
with the code point of the first of them; a blank stands for a character that is not replaced so. -/
def letterRows : List (Nat × String) :=
  [(0xAA, "a"), (0x178, "ÿ"), (0x17F, "s ɓƃ ƅ ɔƈ ɖɗƌ  ǝəɛƒ ɠɣ ɩɨƙ   ɯɲ ɵ"),
   (0x1A6, "ʀƨ ʃ  ƭ ʈư ʊʋƴ ƶ ʒƹ   ƽ"), (0x220, "ƞ"), (0x23A, "ⱥȼ ƚⱦ  ɂ ƀʉʌ"), (0x2B0, "hɦjrɹɻʁwy"),
   (0x2E0, "ɣlsxʕ"), (0x370, "ͱ ͳ ʹ ͷ"), (0x37E, ";ϳ"), (0x386, "ά·έήί ό ύώ"), (0x3CF, "ϗβθυύϋφπ"),
   (0x3F0, "κρσ θε ϸ σϻ  ͻͼͽ"), (0x4C0, "ӏ"), (0xF0C, "་"), (0x10C7, "ⴧ"), (0x10CD, "ⴭ"),
   (0x10FC, "ნ"), (0x1C80, "вдосттъѣꙋᲊ"), (0x1CBD, "ჽჾჿ"), (0x1D2C, "aæb deǝ"),
   (0x1D3C, "oȣprtuwaɐɑᴂbdeəɛɜg kmŋoɔᴖᴗptuᴝɯvᴥβγδφχiruvβγρφχ"), (0x1D78, "н"),
   (0x1D9B, "ɒcɕðɜfɟɡɥɨɩɪᵻʝɭᶅʟɱɰɲɳɴɵɸʂʃƫʉʊᴜʋʌzʐʑʒθ"), (0x1F59, "ὑ ὓ ὕ ὗ"), (0x1FD3, "ΐ"),
   (0x1FD8, "ῐῑὶί"), (0x1FE3, "ΰ"), (0x2011, "‐"), (0x2070, "0i"), (0x207A, "+−=()n"),
   (0x208A, "+−=() aeoxəhklmnpst"), (0x2145, "ddeij"), (0x2329, "〈〉"), (0x24EA, "0"),
   (0x2C60, "ⱡ ɫᵽɽ"), (0x2C6D, "ɑɱɐɒ ⱳ  ⱶ"), (0x2C7C, "jvȿɀ"), (0x2CEB, "ⳬ ⳮ"), (0x2CF2, "ⳳ"),
   (0x2D6F, "ⵡ")]

/-- What consecutive ideographs, and the letters behind them, give way to, each to a single one. -/
def ideographRows : List (Nat × String) :=
  [(0x2E9F, "母"), (0x2EF3, "龟"),
   (0x2F00, "一丨丶丿乙亅二亠人儿入八冂冖冫几凵刀力勹匕匚匸十卜卩厂厶又口囗土士夂夊夕大女子宀寸小尢尸屮山巛工己巾干幺广廴廾弋弓彐彡彳心戈戶手支攴文斗斤方无日曰月木欠止歹殳毋比毛氏气"),
   (0x2F54, "水火爪父爻爿片牙牛犬玄玉瓜瓦甘生用田疋疒癶白皮皿目矛矢石示禸禾穴立竹米糸缶网羊羽老而耒耳聿肉臣自至臼舌舛舟艮色艸虍虫血行衣襾見角言谷豆豕豸貝赤走足身車辛辰辵邑酉釆里金長"),
   (0x2FA8, "門阜隶隹雨靑非面革韋韭音頁風飛食首香馬骨高髟鬥鬯鬲鬼魚鳥鹵鹿麥麻黃黍黑黹黽鼎鼓鼠鼻齊齒龍龜龠"), (0x3002, "."), (0x3036, "〒 十卄卅"),
   (0x3131, "ᄀᄁᆪᄂᆬᆭᄃᄄᄅ"), (0x3140, "ᄚᄆᄇᄈᄡ"), (0x3165, "ᄔᄕᇇᇈᇌᇎᇓᇗᇙᄜᇝᇟᄝᄞᄠᄢᄣᄧᄩ"),
   (0x317D, "ᄲᄶᅀᅇᅌᇱᇲᅗᅘᅙᆄᆅᆈᆑᆒᆔᆞᆡ   一二三四上中下甲乙丙丁天地人"), (0x32EA, "ヒフヘホ"), (0x32F3, "ヤユ"),
   (0xA69C, "ъь"), (0xA770, "ꝯ"), (0xA779, "ꝺ ꝼ ᵹ"), (0xA78B, "ꞌ ɥ  ꞑ ꞓ"), (0xA7AA, "ɦɜɡɬɪ ʞʇʝꭓ"),
   (0xA7C4, "ꞔʂᶎꟈ ꟊ ɤ"), (0xA7DC, "ƛ"), (0xA7F1, "scfqꟶ  ħœ"), (0xAB5C, "ꜧꬷɫꭒ"), (0xAB69, "ʍ"),
   (0xF900, "豈更車賈滑串句龜龜契金喇奈懶癩羅蘿螺裸邏樂洛烙珞落酪駱亂卵欄爛蘭鸞嵐濫藍襤拉臘蠟廊朗浪狼郎來冷勞擄櫓爐盧老蘆虜路露魯鷺碌祿綠菉錄鹿論壟弄籠聾牢磊賂雷壘屢樓淚漏累縷陋勒肋"),
   (0xF954, "凜凌稜綾菱陵讀拏樂諾丹寧怒率異北磻便復不泌數索參塞省葉說殺辰沈拾若掠略亮兩凉梁糧良諒量勵呂女廬旅濾礪閭驪麗黎力曆歷轢年憐戀撚漣煉璉秊練聯輦蓮連鍊列劣咽烈裂說廉念捻殮簾獵"),
   (0xF9A8, "令囹寧嶺怜玲瑩羚聆鈴零靈領例禮醴隸惡了僚寮尿料樂燎療蓼遼龍暈阮劉杻柳流溜琉留硫紐類六戮陸倫崙淪輪律慄栗率隆利吏履易李梨泥理痢罹裏裡里離匿溺吝燐璘藺隣鱗麟林淋臨立笠粒狀炙"),
   (0xF9FC, "識什茶刺切度拓糖宅洞暴輻行降見廓兀嗀  塚 晴  凞猪益礼神祥福靖精羽 蘒 諸  逸都   飯飼館鶴郞隷侮僧免勉勤卑喝嘆器塀墨層屮悔慨憎懲敏既暑梅海渚漢煮爫琢碑社祉祈祐"),
   (0xFA50, "祖祝禍禎穀突節練縉繁署者臭艹艹著褐視謁謹賓贈辶逸難響頻恵𤋮舘  並况全侀充冀勇勺喝啕喙嗢塚墳奄奔婢嬨廒廙彩徭惘慎愈憎慠懲戴揄搜摒敖晴朗望杖歹殺流滛滋漢瀞煮瞧爵犯猪瑱甆画"),
   (0xFAA4, "瘝瘟益盛直睊着磌窱節类絛練缾者荒華蝹襁覆視調諸請謁諾諭謹變贈輸遲醙鉶陼難靖韛響頋頻鬒龜𢡊𢡄𣏕㮝䀘䀹𥉉𥳐𧻓齃龎"), (0xFE10, ",、  ;! 〖〗"),
   (0xFE31, "—–__()\x7b\x7d〔〕【】《》〈〉「」『』"), (0xFE4D, "___,、  ;  !—()\x7b\x7d〔〕 &*+-  =  $"),
   (0xFF01, "!\" $"), (0xFF1B, "; ="), (0xFF5D, "\x7d~⦅⦆.「」、・ヲァィゥェォャュョッーアイウエオカキクケコサシスセソタチツテト"),
   (0xFF8B, "ヒフヘホ"), (0xFF94, "ヤユ"), (0xFF9C, "ワン゙゚ ᄀᄁᆪᄂᆬᆭᄃᄄᄅ"), (0xFFB0, "ᄚᄆᄇᄈᄡ"),
   (0xFFDA, "ᅳᅴᅵ   ¢£¬ ¦¥₩ │←↑→↓■○"), (0x10594, "𐖻𐖼"),
   (0x10781, "ːˑæʙɓ ʣꭦʥʤɖɗᶑɘɞʩɤɢɠʛħʜɧʄʪʫɬ𝼄ꞎɮ𝼅ʎ𝼆øɶɷqɺ𝼈ɽɾʀʨʦꭧʧʈⱱ ʏʡʢʘǀǁǂ𝼊𝼞"),
   (0x1D49C, "a cd  g  jk  nopq"), (0x1D4B6, "abcd f"), (0x1D504, "ab defg"), (0x1D538, "ab defg"),
   (0x1D546, "o"), (0x1D6A4, "ıȷ"), (0x1D6B9, "θ"), (0x1D6C1, "∇"), (0x1D6D3, "σ"),
   (0x1D6DB, "∂εθκφρπ"), (0x1D6F3, "θ"), (0x1D6FB, "∇"), (0x1D70D, "σ"), (0x1D715, "∂εθκφρπ"),
   (0x1D72D, "θ"), (0x1D735, "∇"), (0x1D747, "σ"), (0x1D74F, "∂εθκφρπ"), (0x1D767, "θ"),
   (0x1D76F, "∇"), (0x1D781, "σ"), (0x1D789, "∂εθκφρπ"), (0x1D7A1, "θ"), (0x1D7A9, "∇"),
   (0x1D7BB, "σ"), (0x1D7C3, "∂εθκφρπϝϝ"), (0x1E039, "клм"), (0x1E047, "ыэюꚉәіјөүӏ"),
   (0x1E05A, "клопс"), (0x1E065, "ъыґіѕџҫꙑұ"),
   (0x1EE00, "ابجد وزحطيكلمنسعفصقرشتثخذضظغٮںڡٯ بج ه  ح يكلمنسعفصق شتثخ ض غ"), (0x1EE42, "ج"),
   (0x1EE47, "ح ي ل نسع صق ش  خ ض غ ں ٯ بج ه  حطيك منسعفصق شتثخ ضظغٮ ڡ ابجدهوزحطي لمنسعفصقرشتثخذضظ"),
   (0x1EE9B, "غ"), (0x1EEA1, "بجد وزحطي لمنسعفصقرشتثخذضظغ"),
   (0x1F210, "手字双デ二多解天交映無料前後再新初終生販声吹演投捕一三遊左中右指走打禁空合満有月申割営配"), (0x1F250, "得可"),
   (0x2F800, "丽丸乁𠄢你侮侻倂偺備僧像㒞𠘺免兔兤具𠔜㒹內再𠕋冗冤仌冬况𩇟凵刃㓟刻剆割剷㔕勇勉勤勺包匆北卉卑博即卽卿卿卿𠨬灰及叟𠭣叫叱吆咞吸呈周咢哶唐啓啣善善喙喫喳嗂圖嘆圗噑噴切壮城埴"),
   (0x2F854, "堍型堲報墬𡓤売壷夆多夢奢𡚨𡛪姬娛娧姘婦㛮㛼嬈嬾嬾𡧈寃寘寧寳𡬘寿将当尢㞁屠屮峀岍𡷤嵃𡷦嵮嵫嵼巡巢㠯巽帨帽幩㡢𢆃㡼庰庳庶廊𪎒廾𢌱𢌱舁弢弢㣇𣊸𦇚形彫㣣徚忍志忹悁㤺㤜悔𢛔惇慈慌"),
   (0x2F8A8, "慎慌慺憎憲憤憯懞懲懶成戛扝抱拔捐𢬌挽拼捨掃揤𢯱搢揅掩㨮摩摾撝摷㩬敏敬𣀊旣書晉㬙暑㬈㫤冒冕最暜肭䏙朗望朡杞杓𣏃㭉柺枅桒梅𣑭梎栟椔㮝楂榣槪檨𣚣櫛㰘次𣢧歔㱎歲殟殺殻𣪍𡴋𣫺汎𣲼"),
   (0x2F8FC, "沿泍汧洖派海流浩浸涅𣴞洴港湮㴳滋滇𣻑淹潮𣽞𣾎濆瀹瀞瀛㶖灊災灷炭𠔥煅𤉣熜𤎫爨爵牐𤘈犀犕𤜵𤠔獺王㺬玥㺸㺸瑇瑜瑱璅瓊㼛甤𤰶甾𤲒異𢆟瘐𤾡𤾸𥁄㿼䀈直𥃳𥃲𥄙𥄳眞真真睊䀹瞋䁆䂖𥐝硎碌"),
   (0x2F950, "磌䃣𥘦祖𥚚𥛅福秫䄯穀穊穏𥥼𥪧𥪧竮䈂𥮫篆築䈧𥲀糒䊠糨糣紀𥾆絣䌁緇縂繅䌴𦈨𦉇䍙𦋙罺𦌾羕翺者𦓚𦔣聠𦖨聰𣍟䏕育脃䐋脾媵𦞧𦞵𣎓𣎜舁舄辞䑫芑芋芝劳花芳芽苦𦬼若茝荣莭茣莽菧著荓菊菌菜"),
   (0x2F9A4, "𦰶𦵫𦳕䔫蓱蓳蔖𧏊蕤𦼬䕝䕡𦾱𧃒䕫虐虜虧虩蚩蚈蜎蛢蝹蜨蝫螆䗗蟡蠁䗹衠衣𧙧裗裞䘵裺㒻𧢮𧥦䚾䛇誠諭變豕𧲨貫賁贛起𧼯𠠄跋趼跰𠣞軔輸𨗒𨗭邔郱鄑𨜮鄛鈸鋗鋘鉼鏹鐕𨯺開䦕閷𨵷䧦雃嶲霣𩅅𩈚"),
   (0x2F9F8, "䩮䩶韠𩐊䪲𩒖頋頋頩𩖶飢䬳餩馧駂駾䯎𩬰鬒鱀鳽䳎䳭鵧𪃎䳸𪄅𪈎𪊑麻䵖黹黾鼅鼏鼖鼻𪘀")]

/-- What consecutive characters below the presentation forms give way to, behind the code point of
the first of them and with blanks between. -/
def textRows : List (Nat × String) :=
  [(0xB2, "2 3  μ    1 o  1⁄4 1⁄2 3⁄4"), (0x130, "i̇  ij ij ĵ  ķ"), (0x13F, "l· l·"), (0x149, "ʼn"),
   (0x1C4, "dž dž dž lj lj lj nj nj nj"), (0x1F1, "dz dz dz ǵ  ƕ ƿ"),
   (0x340, "\u0300 \u0301  \u0313 \u0308́ ι"), (0x587, "եւ"), (0x675, "اٴ وٴ ۇٴ يٴ"),
   (0x958, "क़ ख़ ग़ ज़ ड़ ढ़ फ़ य़"), (0x9DC, "ড় ঢ়  য়"), (0xA33, "ਲ਼   ਸ਼"),
   (0xA59, "ਖ਼ ਗ਼ ਜ਼   ਫ਼"), (0xB5C, "ଡ଼ ଢ଼"), (0xE33, "\u0E4Dา"), (0xEB3, "\u0ECDາ"),
   (0xEDC, "ຫນ ຫມ"), (0xF43, "གྷ"), (0xF4D, "ཌྷ"), (0xF52, "དྷ"), (0xF57, "བྷ"), (0xF5C, "ཛྷ"),
   (0xF69, "ཀྵ"), (0xF73, "\u0F71ི  \u0F71ུ \u0FB2ྀ \u0FB2ཱྀ \u0FB3ྀ \u0FB3ཱྀ"), (0xF81, "\u0F71ྀ"),
   (0xF93, "\u0F92ྷ"), (0xF9D, "\u0F9Cྷ"), (0xFA2, "\u0FA1ྷ"), (0xFA7, "\u0FA6ྷ"),
   (0xFAC, "\u0FABྷ"), (0xFB9, "\u0F90ྵ"), (0x1E9A, "aʾ ṡ   ß"),
   (0x1F71, "ά  έ  ή  ί  ό  ύ  ώ   ἀι ἁι ἂι ἃι ἄι ἅι ἆι ἇι ἀι ἁι ἂι ἃι ἄι ἅι ἆι ἇι ἠι ἡι ἢι ἣι ἤι"),
   (0x1F95, "ἥι ἦι ἧι ἠι ἡι ἢι ἣι ἤι ἥι ἦι ἧι ὠι ὡι ὢι ὣι ὤι ὥι ὦι ὧι ὠι ὡι ὢι ὣι ὤι ὥι ὦι ὧι"),
   (0x1FB2, "ὰι αι άι   ᾶι ᾰ ᾱ ὰ ά αι  ι    ὴι ηι ήι   ῆι ὲ έ ὴ ή ηι"),
   (0x1FE8, "ῠ ῡ ὺ ύ ῥ   \x60   ὼι ωι ώι   ῶι ὸ ό ὼ ώ ωι"), (0x2033, "′′ ′′′  ‵‵ ‵‵‵"),
   (0x203C, "!!"), (0x2057, "′′′′"), (0x20A8, "rs"),
   (0x2102, "c °c    ɛ  °f g h h h h ħ i i l l  n no   p q r r r   sm tel tm  z  ω  z  k å b c  e"),
   (0x2130, "e f ⅎ m o א ב ג ד i  fax π γ γ π ∑"),
   (0x2150, "1⁄7 1⁄9 1⁄10 1⁄3 2⁄3 1⁄5 2⁄5 3⁄5 4⁄5 1⁄6 5⁄6 1⁄8 3⁄8 5⁄8 7⁄8 1⁄ i ii iii iv v vi vii"),
   (0x2167, "viii ix x xi xii l c d m i ii iii iv v vi vii viii ix x xi xii l c d m    ↄ"),
   (0x2189, "0⁄3"), (0x222C, "∫∫ ∫∫∫  ∮∮ ∮∮∮"),
   (0x2469, "10 11 12 13 14 15 16 17 18 19 20 (1) (2) (3) (4) (5) (6) (7) (8) (9) (10) (11) (12)"),
   (0x2480, "(13) (14) (15) (16) (17) (18) (19) (20)"),
   (0x249C, "(a) (b) (c) (d) (e) (f) (g) (h) (i) (j) (k) (l) (m) (n) (o) (p) (q) (r) (s) (t) (u)"),
   (0x24B1, "(v) (w) (x) (y) (z)"), (0x2A0C, "∫∫∫∫"), (0x2A75, "== ==="), (0x2ADC, "⫝̸"),
   (0x309F, "より"), (0x30FF, "コト"),
   (0x3200, "(ᄀ) (ᄂ) (ᄃ) (ᄅ) (ᄆ) (ᄇ) (ᄉ) (ᄋ) (ᄌ) (ᄎ) (ᄏ) (ᄐ) (ᄑ) (ᄒ) (가) (나) (다) (라) (마) (바) (사)"),
   (0x3215, "(아) (자) (차) (카) (타) (파) (하) (주) (오전) (오후)  (一) (二) (三) (四) (五) (六) (七) (八) (九) (十)"),
   (0x322A, "(月) (火) (水) (木) (金) (土) (日) (株) (有) (社) (名) (特) (財) (祝) (労) (代) (呼) (学) (監) (企) (資)"),
   (0x323F, "(協) (祭) (休) (自) (至) 問 幼 文 箏"),
   (0x3250, "pte 21 22 23 24 25 26 27 28 29 30 31 32 33 34 35 ᄀ ᄂ ᄃ ᄅ ᄆ ᄇ ᄉ ᄋ ᄌ"),
   (0x326E, "가 나 다 라 마 바 사 아 자 차 카 타 파 하 참고 주의 우  一 二 三 四 五 六 七 八 九 十 月 火 水 木 金 土 日 株 有 社 名 特 財 祝"),
   (0x3298, "労 秘 男 女 適 優 印 注 項 休 写 正 上 中 下 左 右 医 宗 学 監 企 資 協 夜 36 37 38 39 40 41 42 43 44 45 46"),
   (0x32BC, "47 48 49 50 1月 2月 3月 4月 5月 6月 7月 8月 9月 10月 11月 12月 hg erg ev ltd ア イ ウ エ オ カ キ ク ケ コ"),
   (0x32DA, "サ シ ス セ ソ タ チ ツ テ ト"),
   (0x32FB, "ワ ヰ ヱ ヲ 令和 アパート アルファ アンペア アール イニング インチ ウォン エスクード エーカー オンス オーム カイリ カラット カロリー ガロン ガンマ"),
   (0x3310, "ギガ ギニー キュリー ギルダー キロ キログラム キロメートル キロワット グラム グラムトン クルゼイロ クローネ ケース コルナ コーポ サイクル サンチーム"),
   (0x3321, "シリング センチ セント ダース デシ ドル トン ナノ ノット ハイツ パーセント パーツ バーレル ピアストル ピクル ピコ ビル ファラッド フィート ブッシェル"),
   (0x3335, "フラン ヘクタール ペソ ペニヒ ヘルツ ペンス ページ ベータ ポイント ボルト ホン ポンド ホール ホーン マイクロ マイル マッハ マルク マンション ミクロン"),
   (0x3349, "ミリ ミリバール メガ メガトン メートル ヤード ヤール ユアン リットル リラ ルピー ルーブル レム レントゲン ワット 0点 1点 2点 3点 4点 5点 6点"),
   (0x335F, "7点 8点 9点 10点 11点 12点 13点 14点 15点 16点 17点 18点 19点 20点 21点 22点 23点 24点 hpa da au bar"),
   (0x3375, "ov pc dm dm2 dm3 iu 平成 昭和 大正 明治 株式会社 pa na μa ma ka kb mb gb cal kcal pf nf μf μg mg"),
   (0x338F, "kg hz khz mhz ghz thz μl ml dl kl fm nm μm mm cm km mm2 cm2 m2 km2 mm3 cm3 m3 km3"),
   (0x33A7, "m∕s m∕s2 pa kpa mpa gpa rad rad∕s rad∕s2 ps ns μs ms pv nv μv mv kv mv pw nw μw mw"),
   (0x33BE, "kw mw kω mω  bq cc cd c∕kg  db gy ha hp in kk km kt lm ln log lx mb mil mol ph  ppm"),
   (0x33DA, "pr sr sv wb v∕m a∕m 1日 2日 3日 4日 5日 6日 7日 8日 9日 10日 11日 12日 13日 14日 15日 16日 17日 18日"),
   (0x33F2, "19日 20日 21日 22日 23日 24日 25日 26日 27日 28日 29日 30日 31日 gal")]

/-- What consecutive presentation forms, and the symbols behind them, give way to. -/
def presentationRows : List (Nat × String) :=
  [(0xFB00, "ff fi fl ffi ffl st st"), (0xFB13, "մն մե մի վն մխ"),
   (0xFB1D, "יִ  ײַ ע א ד ה כ ל ם ר ת + שׁ שׂ שּׁ שּׂ אַ אָ אּ בּ גּ דּ הּ וּ זּ  טּ יּ ךּ כּ לּ"),
   (0xFB3E, "מּ  נּ סּ  ףּ פּ  צּ קּ רּ שּ תּ וֹ בֿ כֿ פֿ אל ٱ ٱ ٻ ٻ ٻ ٻ پ پ پ پ ڀ ڀ ڀ ڀ ٺ ٺ ٺ ٺ"),
   (0xFB62, "ٿ ٿ ٿ ٿ ٹ ٹ ٹ ٹ ڤ ڤ ڤ ڤ ڦ ڦ ڦ ڦ ڄ ڄ ڄ ڄ ڃ ڃ ڃ ڃ چ چ چ چ ڇ ڇ ڇ ڇ ڍ ڍ ڌ ڌ ڎ ڎ ڈ ڈ ژ ژ"),
   (0xFB8C, "ڑ ڑ ک ک ک ک گ گ گ گ ڳ ڳ ڳ ڳ ڱ ڱ ڱ ڱ ں ں ڻ ڻ ڻ ڻ ۀ ۀ ہ ہ ہ ہ ھ ھ ھ ھ ے ے ۓ ۓ"),
   (0xFBD3, "ڭ ڭ ڭ ڭ ۇ ۇ ۆ ۆ ۈ ۈ ۇٴ ۋ ۋ ۅ ۅ ۉ ۉ ې ې ې ې ى ى ئا ئا ئە ئە ئو ئو ئۇ ئۇ ئۆ ئۆ ئۈ ئۈ"),
   (0xFBF6, "ئې ئې ئې ئى ئى ئى ی ی ی ی ئج ئح ئم ئى ئي بج بح بخ بم بى بي تج تح تخ تم تى تي ثج ثم"),
   (0xFC13, "ثى ثي جح جم حج حم خج خح خم سج سح سخ سم صح صم ضج ضح ضخ ضم طح طم ظم عج عم غج غم فج فح"),
   (0xFC2F, "فخ فم فى في قح قم قى قي كا كج كح كخ كل كم كى كي لج لح لخ لم لى لي مج مح مخ مم مى مي"),
   (0xFC4B, "نج نح نخ نم نى ني هج هم هى هي يج يح يخ يم يى يي ذٰ رٰ ىٰ"),
   (0xFC64, "ئر ئز ئم ئن ئى ئي بر بز بم بن بى بي تر تز تم تن تى تي ثر ثز ثم ثن ثى ثي فى في قى قي"),
   (0xFC80, "كا كل كم كى كي لم لى لي ما مم نر نز نم نن نى ني ىٰ ير يز يم ين يى يي ئج ئح ئخ ئم ئه"),
   (0xFC9C, "بج بح بخ بم به تج تح تخ تم ته ثم جح جم حج حم خج خم سج سح سخ سم صح صخ صم ضج ضح ضخ ضم"),
   (0xFCB8, "طح ظم عج عم غج غم فج فح فخ فم قح قم كج كح كخ كل كم لج لح لخ لم له مج مح مخ مم نج نح"),
   (0xFCD4, "نخ نم نه هج هم هٰ يج يح يخ يم يه ئم ئه بم به تم ته ثم ثه سم سه شم شه كل كم لم نم نه"),
   (0xFCF0, "يم يه ـَّ ـُّ ـِّ طى طي عى عي غى غي سى سي شى شي حى حي جى جي خى خي صى صي ضى ضي شج شح"),
   (0xFD0B, "شخ شم شر سر صر ضر طى طي عى عي غى غي سى سي شى شي حى حي جى جي خى خي صى صي ضى ضي شج شح"),
   (0xFD27, "شخ شم شر سر صر ضر شج شح شخ شم سه شه طم سج سح سخ شج شح شخ طم ظم اً اً"),
   (0xFD50, "تجم تحج تحج تحم تخم تمج تمح تمخ جمح جمح حمي حمى سحج سجح سجى سمح سمح سمج سمم سمم صحح"),
   (0xFD65, "صحح صمم شحم شحم شجي شمخ شمخ شمم شمم ضحى ضخم ضخم طمح طمح طمم طمي عجم عمم عمم عمى غمم"),
   (0xFD7A, "غمي غمى فخم فخم قمح قمم لحم لحي لحى لجج لجج لخم لخم لمح لمح محج محم محي مجح مجم مخج"),
   (0xFD8F, "مخم   مجخ همج همم نحم نحى نجم نجم نجى نمي نمى يمم يمم بخي تجي تجى تخي تخى تمي تمى"),
   (0xFDA5, "جمي جحى جمى سخى صحي شحي ضحي لجي لمي يحي يجي يمي ممي قمي نحي قمح لحم عمي كمي نجح مخي"),
   (0xFDBA, "لجم كمم لجم نجح جحي حجي مجي فمي بحي كمم عجم صمم سخي نجي"),
   (0xFDF0, "صلے قلے الله اكبر محمد صلعم رسول عليه وسلم صلى   ریال"), (0xFE71, "ـً"),
   (0xFE77, "ـَ  ـُ  ـِ  ـّ  ـْ ء آ آ أ أ ؤ ؤ إ إ ئ ئ ئ ئ ا ا ب ب ب ب ة ة ت ت ت ت ث ث ث ث ج ج ج ج"),
   (0xFEA1, "ح ح ح ح خ خ خ خ د د ذ ذ ر ر ز ز س س س س ش ش ش ش ص ص ص ص ض ض ض ض ط ط ط ط ظ ظ ظ ظ ع ع"),
   (0xFECB, "ع ع غ غ غ غ ف ف ف ف ق ق ق ق ك ك ك ك ل ل ل ل م م م م ن ن ن ن ه ه ه ه و و ى ى ي ي ي ي"),
   (0xFEF5, "لآ لآ لأ لأ لإ لإ لا لا"), (0x1D15E, "𝅗𝅥 𝅘𝅥 𝅘𝅥𝅮 𝅘𝅥𝅯 𝅘𝅥𝅰 𝅘𝅥𝅱 𝅘𝅥𝅲"),
   (0x1D1BB, "𝆹𝅥 𝆺𝅥 𝆹𝅥𝅮 𝆺𝅥𝅮 𝆹𝅥𝅯 𝆺𝅥𝅯"), (0x1F101, "0, 1, 2, 3, 4, 5, 6, 7, 8, 9,"),
   (0x1F110, "(a) (b) (c) (d) (e) (f) (g) (h) (i) (j) (k) (l) (m) (n) (o) (p) (q) (r) (s) (t) (u)"),
   (0x1F125, "(v) (w) (x) (y) (z) 〔s〕 c r cd wz"), (0x1F14A, "hv mv sd ss ppv wc"),
   (0x1F16A, "mc md mr"), (0x1F190, "dj"), (0x1F200, "ほか ココ サ"),
   (0x1F240, "〔本〕 〔三〕 〔二〕 〔安〕 〔点〕 〔打〕 〔盗〕 〔勝〕 〔敗〕")]

/-- What a character gives way to in a row that begins at a given code point. -/
def entryAt (code first : Nat) (entries : List Text) : Option Text :=
  if code < first then none else entries[code - first]?.filter (· ≠ [])

/-- What a character gives way to in rows of single characters. -/
def letterIn (rows : List (Nat × String)) (code : Nat) : Option Text :=
  rows.findSome? fun (first, row) =>
    entryAt code first (row.toList.map fun c => if c = ' ' then [] else [c])

/-- What a character gives way to in rows of texts. -/
def textIn (rows : List (Nat × String)) (code : Nat) : Option Text :=
  rows.findSome? fun (first, row) => entryAt code first (Text.splitAt ' ' row.toList)

/-- What a character gives way to at the distance of its range. -/
def shifted? (code : Nat) : Option Text :=
  shiftedRanges.findSome? fun (low, high, target) =>
    if low ≤ code ∧ code ≤ high then some [Char.ofNat (target + (code - low))] else none

/-- What a capital letter in front of its small one gives way to. -/
def paired? (code : Nat) : Option Text :=
  pairedRanges.findSome? fun (low, high) =>
    if low ≤ code ∧ code ≤ high ∧ (code - low) % 2 = 0 then some [Char.ofNat (code + 1)] else none

/-- What a domain name keeps in the place of a character. -/
def replacement? (c : Char) : Option Text :=
  let code := c.toNat
  if isAllowed c then some [c]
  else if inRanges droppedRanges code then some []
  else shifted? code <|> paired? code <|> letterIn letterRows code <|>
    letterIn ideographRows code <|> textIn textRows code <|> textIn presentationRows code

end SearchGateway.Domain
