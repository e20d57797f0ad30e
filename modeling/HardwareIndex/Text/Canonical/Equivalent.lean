/-!
# Characters with a preferred spelling

Characters that are never written in canonical text, because another character
or a sequence of others means the same: compatibility ideographs, signs that are
letters, and composites that their script spells out.
-/

namespace HardwareIndex.Text

/-- Code points from a first to a last one, with the spellings of each in turn,
    parted by blanks. -/
def spellings : Array (Nat × Nat × String) := #[
  (0x0340, 0x0341, "̀ ́"),
  (0x0343, 0x0344, "̓ ̈́"),
  (0x0374, 0x0374, "ʹ"),
  (0x037E, 0x037E, ";"),
  (0x0387, 0x0387, "·"),
  (0x0958, 0x095F, "क़ ख़ ग़ ज़ ड़ ढ़ फ़ य़"),
  (0x09DC, 0x09DD, "ড় ঢ়"),
  (0x09DF, 0x09DF, "য়"),
  (0x0A33, 0x0A33, "ਲ਼"),
  (0x0A36, 0x0A36, "ਸ਼"),
  (0x0A59, 0x0A5B, "ਖ਼ ਗ਼ ਜ਼"),
  (0x0A5E, 0x0A5E, "ਫ਼"),
  (0x0B5C, 0x0B5D, "ଡ଼ ଢ଼"),
  (0x0F43, 0x0F43, "གྷ"),
  (0x0F4D, 0x0F4D, "ཌྷ"),
  (0x0F52, 0x0F52, "དྷ"),
  (0x0F57, 0x0F57, "བྷ"),
  (0x0F5C, 0x0F5C, "ཛྷ"),
  (0x0F69, 0x0F69, "ཀྵ"),
  (0x0F73, 0x0F73, "ཱི"),
  (0x0F75, 0x0F76, "ཱུ ྲྀ"),
  (0x0F78, 0x0F78, "ླྀ"),
  (0x0F81, 0x0F81, "ཱྀ"),
  (0x0F93, 0x0F93, "ྒྷ"),
  (0x0F9D, 0x0F9D, "ྜྷ"),
  (0x0FA2, 0x0FA2, "ྡྷ"),
  (0x0FA7, 0x0FA7, "ྦྷ"),
  (0x0FAC, 0x0FAC, "ྫྷ"),
  (0x0FB9, 0x0FB9, "ྐྵ"),
  (0x1F71, 0x1F71, "ά"),
  (0x1F73, 0x1F73, "έ"),
  (0x1F75, 0x1F75, "ή"),
  (0x1F77, 0x1F77, "ί"),
  (0x1F79, 0x1F79, "ό"),
  (0x1F7B, 0x1F7B, "ύ"),
  (0x1F7D, 0x1F7D, "ώ"),
  (0x1FBB, 0x1FBB, "Ά"),
  (0x1FBE, 0x1FBE, "ι"),
  (0x1FC9, 0x1FC9, "Έ"),
  (0x1FCB, 0x1FCB, "Ή"),
  (0x1FD3, 0x1FD3, "ΐ"),
  (0x1FDB, 0x1FDB, "Ί"),
  (0x1FE3, 0x1FE3, "ΰ"),
  (0x1FEB, 0x1FEB, "Ύ"),
  (0x1FEE, 0x1FEF, "΅ \x60"),
  (0x1FF9, 0x1FF9, "Ό"),
  (0x1FFB, 0x1FFB, "Ώ"),
  (0x1FFD, 0x1FFD, "´"),
  (0x2000, 0x2001, "   "),
  (0x2126, 0x2126, "Ω"),
  (0x212A, 0x212B, "K Å"),
  (0x2329, 0x232A, "〈 〉"),
  (0x2ADC, 0x2ADC, "⫝̸"),
  (0xF900, 0xF929, "豈 更 車 賈 滑 串 句 龜 龜 契 金 喇 奈 懶 癩 羅 蘿 螺 裸 邏 樂 洛 烙 珞 落 酪 駱 亂 卵 欄 爛 蘭 鸞 嵐 濫 藍 襤 拉 臘 蠟 廊 朗"),
  (0xF92A, 0xF953, "浪 狼 郎 來 冷 勞 擄 櫓 爐 盧 老 蘆 虜 路 露 魯 鷺 碌 祿 綠 菉 錄 鹿 論 壟 弄 籠 聾 牢 磊 賂 雷 壘 屢 樓 淚 漏 累 縷 陋 勒 肋"),
  (0xF954, 0xF97D, "凜 凌 稜 綾 菱 陵 讀 拏 樂 諾 丹 寧 怒 率 異 北 磻 便 復 不 泌 數 索 參 塞 省 葉 說 殺 辰 沈 拾 若 掠 略 亮 兩 凉 梁 糧 良 諒"),
  (0xF97E, 0xF9A7, "量 勵 呂 女 廬 旅 濾 礪 閭 驪 麗 黎 力 曆 歷 轢 年 憐 戀 撚 漣 煉 璉 秊 練 聯 輦 蓮 連 鍊 列 劣 咽 烈 裂 說 廉 念 捻 殮 簾 獵"),
  (0xF9A8, 0xF9D1, "令 囹 寧 嶺 怜 玲 瑩 羚 聆 鈴 零 靈 領 例 禮 醴 隸 惡 了 僚 寮 尿 料 樂 燎 療 蓼 遼 龍 暈 阮 劉 杻 柳 流 溜 琉 留 硫 紐 類 六"),
  (0xF9D2, 0xF9FB, "戮 陸 倫 崙 淪 輪 律 慄 栗 率 隆 利 吏 履 易 李 梨 泥 理 痢 罹 裏 裡 里 離 匿 溺 吝 燐 璘 藺 隣 鱗 麟 林 淋 臨 立 笠 粒 狀 炙"),
  (0xF9FC, 0xFA0D, "識 什 茶 刺 切 度 拓 糖 宅 洞 暴 輻 行 降 見 廓 兀 嗀"),
  (0xFA10, 0xFA10, "塚"),
  (0xFA12, 0xFA12, "晴"),
  (0xFA15, 0xFA1E, "凞 猪 益 礼 神 祥 福 靖 精 羽"),
  (0xFA20, 0xFA20, "蘒"),
  (0xFA22, 0xFA22, "諸"),
  (0xFA25, 0xFA26, "逸 都"),
  (0xFA2A, 0xFA53, "飯 飼 館 鶴 郞 隷 侮 僧 免 勉 勤 卑 喝 嘆 器 塀 墨 層 屮 悔 慨 憎 懲 敏 既 暑 梅 海 渚 漢 煮 爫 琢 碑 社 祉 祈 祐 祖 祝 禍 禎"),
  (0xFA54, 0xFA6D, "穀 突 節 練 縉 繁 署 者 臭 艹 艹 著 褐 視 謁 謹 賓 贈 辶 逸 難 響 頻 恵 𤋮 舘"),
  (0xFA70, 0xFA99, "並 况 全 侀 充 冀 勇 勺 喝 啕 喙 嗢 塚 墳 奄 奔 婢 嬨 廒 廙 彩 徭 惘 慎 愈 憎 慠 懲 戴 揄 搜 摒 敖 晴 朗 望 杖 歹 殺 流 滛 滋"),
  (0xFA9A, 0xFAC3, "漢 瀞 煮 瞧 爵 犯 猪 瑱 甆 画 瘝 瘟 益 盛 直 睊 着 磌 窱 節 类 絛 練 缾 者 荒 華 蝹 襁 覆 視 調 諸 請 謁 諾 諭 謹 變 贈 輸 遲"),
  (0xFAC4, 0xFAD9, "醙 鉶 陼 難 靖 韛 響 頋 頻 鬒 龜 𢡊 𢡄 𣏕 㮝 䀘 䀹 𥉉 𥳐 𧻓 齃 龎"),
  (0xFB1D, 0xFB1D, "יִ"),
  (0xFB1F, 0xFB1F, "ײַ"),
  (0xFB2A, 0xFB36, "שׁ שׂ שּׁ שּׂ אַ אָ אּ בּ גּ דּ הּ וּ זּ"),
  (0xFB38, 0xFB3C, "טּ יּ ךּ כּ לּ"),
  (0xFB3E, 0xFB3E, "מּ"),
  (0xFB40, 0xFB41, "נּ סּ"),
  (0xFB43, 0xFB44, "ףּ פּ"),
  (0xFB46, 0xFB4E, "צּ קּ רּ שּ תּ וֹ בֿ כֿ פֿ"),
  (0x1D15E, 0x1D164, "𝅗𝅥 𝅘𝅥 𝅘𝅥𝅮 𝅘𝅥𝅯 𝅘𝅥𝅰 𝅘𝅥𝅱 𝅘𝅥𝅲"),
  (0x1D1BB, 0x1D1C0, "𝆹𝅥 𝆺𝅥 𝆹𝅥𝅮 𝆺𝅥𝅮 𝆹𝅥𝅯 𝆺𝅥𝅯"),
  (0x2F800, 0x2F829, "丽 丸 乁 𠄢 你 侮 侻 倂 偺 備 僧 像 㒞 𠘺 免 兔 兤 具 𠔜 㒹 內 再 𠕋 冗 冤 仌 冬 况 𩇟 凵 刃 㓟 刻 剆 割 剷 㔕 勇 勉 勤 勺 包"),
  (0x2F82A, 0x2F853, "匆 北 卉 卑 博 即 卽 卿 卿 卿 𠨬 灰 及 叟 𠭣 叫 叱 吆 咞 吸 呈 周 咢 哶 唐 啓 啣 善 善 喙 喫 喳 嗂 圖 嘆 圗 噑 噴 切 壮 城 埴"),
  (0x2F854, 0x2F87D, "堍 型 堲 報 墬 𡓤 売 壷 夆 多 夢 奢 𡚨 𡛪 姬 娛 娧 姘 婦 㛮 㛼 嬈 嬾 嬾 𡧈 寃 寘 寧 寳 𡬘 寿 将 当 尢 㞁 屠 屮 峀 岍 𡷤 嵃 𡷦"),
  (0x2F87E, 0x2F8A7, "嵮 嵫 嵼 巡 巢 㠯 巽 帨 帽 幩 㡢 𢆃 㡼 庰 庳 庶 廊 𪎒 廾 𢌱 𢌱 舁 弢 弢 㣇 𣊸 𦇚 形 彫 㣣 徚 忍 志 忹 悁 㤺 㤜 悔 𢛔 惇 慈 慌"),
  (0x2F8A8, 0x2F8D1, "慎 慌 慺 憎 憲 憤 憯 懞 懲 懶 成 戛 扝 抱 拔 捐 𢬌 挽 拼 捨 掃 揤 𢯱 搢 揅 掩 㨮 摩 摾 撝 摷 㩬 敏 敬 𣀊 旣 書 晉 㬙 暑 㬈 㫤"),
  (0x2F8D2, 0x2F8FB, "冒 冕 最 暜 肭 䏙 朗 望 朡 杞 杓 𣏃 㭉 柺 枅 桒 梅 𣑭 梎 栟 椔 㮝 楂 榣 槪 檨 𣚣 櫛 㰘 次 𣢧 歔 㱎 歲 殟 殺 殻 𣪍 𡴋 𣫺 汎 𣲼"),
  (0x2F8FC, 0x2F925, "沿 泍 汧 洖 派 海 流 浩 浸 涅 𣴞 洴 港 湮 㴳 滋 滇 𣻑 淹 潮 𣽞 𣾎 濆 瀹 瀞 瀛 㶖 灊 災 灷 炭 𠔥 煅 𤉣 熜 𤎫 爨 爵 牐 𤘈 犀 犕"),
  (0x2F926, 0x2F94F, "𤜵 𤠔 獺 王 㺬 玥 㺸 㺸 瑇 瑜 瑱 璅 瓊 㼛 甤 𤰶 甾 𤲒 異 𢆟 瘐 𤾡 𤾸 𥁄 㿼 䀈 直 𥃳 𥃲 𥄙 𥄳 眞 真 真 睊 䀹 瞋 䁆 䂖 𥐝 硎 碌"),
  (0x2F950, 0x2F979, "磌 䃣 𥘦 祖 𥚚 𥛅 福 秫 䄯 穀 穊 穏 𥥼 𥪧 𥪧 竮 䈂 𥮫 篆 築 䈧 𥲀 糒 䊠 糨 糣 紀 𥾆 絣 䌁 緇 縂 繅 䌴 𦈨 𦉇 䍙 𦋙 罺 𦌾 羕 翺"),
  (0x2F97A, 0x2F9A3, "者 𦓚 𦔣 聠 𦖨 聰 𣍟 䏕 育 脃 䐋 脾 媵 𦞧 𦞵 𣎓 𣎜 舁 舄 辞 䑫 芑 芋 芝 劳 花 芳 芽 苦 𦬼 若 茝 荣 莭 茣 莽 菧 著 荓 菊 菌 菜"),
  (0x2F9A4, 0x2F9CD, "𦰶 𦵫 𦳕 䔫 蓱 蓳 蔖 𧏊 蕤 𦼬 䕝 䕡 𦾱 𧃒 䕫 虐 虜 虧 虩 蚩 蚈 蜎 蛢 蝹 蜨 蝫 螆 䗗 蟡 蠁 䗹 衠 衣 𧙧 裗 裞 䘵 裺 㒻 𧢮 𧥦 䚾"),
  (0x2F9CE, 0x2F9F7, "䛇 誠 諭 變 豕 𧲨 貫 賁 贛 起 𧼯 𠠄 跋 趼 跰 𠣞 軔 輸 𨗒 𨗭 邔 郱 鄑 𨜮 鄛 鈸 鋗 鋘 鉼 鏹 鐕 𨯺 開 䦕 閷 𨵷 䧦 雃 嶲 霣 𩅅 𩈚"),
  (0x2F9F8, 0x2FA1D, "䩮 䩶 韠 𩐊 䪲 𩒖 頋 頋 頩 𩖶 飢 䬳 餩 馧 駂 駾 䯎 𩬰 鬒 鱀 鳽 䳎 䳭 鵧 𪃎 䳸 𪄅 𪈎 𪊑 麻 䵖 黹 黾 鼅 鼏 鼖 鼻 𪘀")]

/-- The preferred spelling of a character that has one. -/
def spelling? (c : Char) : Option (List Char) :=
  match spellings.find? fun (first, last, _) => first ≤ c.toNat && c.toNat ≤ last with
  | some (first, _, texts) => (texts.toList.splitOn ' ')[c.toNat - first]?
  | none => none

end HardwareIndex.Text
