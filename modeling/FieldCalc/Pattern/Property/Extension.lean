import FieldCalc.Pattern.Property.Packed

/-!
# Script extensions

The characters that are used in a script, which may be used in others too.  Those of Unicode 16.
-/

namespace FieldCalc

namespace Pattern

/-- The characters used in each script. -/
def extensions : List Named :=
  [⟨["adlam", "adlm"],
    ["1oHA1GA74OA3tHA3d3I2XEJEB"]⟩,
   ⟨["ahom"],
    ["24bC1ACOEW"]⟩,
   ⟨["anatolianhieroglyphs", "hluw"],
    ["2gmEmK"]⟩,
   ⟨["arabic", "arab"],
    ["1nCEB8GB1H3C1V9G1EBBF2WB1C6dNA3tHA1k3A4KQhCC2BHA1GP4IEB5E12H1B34E1E2PC2DD1ozSDB1ABBBACAB",
     "JBDBABAGAEABABABCBBBACABABABABABBBACDBGBDBDBABJBQFCBEBQ2AB"]⟩,
   ⟨["armenian", "armn"],
    ["tWAlG1LC1XCC1v5JE"]⟩,
   ⟨["avestan", "avst"],
    ["7BAcfSB1oeC2BDG"]⟩,
   ⟨["balinese", "bali"],
    ["7dW2YB1X"]⟩,
   ⟨["bamum", "bamu"],
    ["19kQ3J1gsQlW"]⟩,
   ⟨["bassavah", "bass"],
    ["2r8I1DCF"]⟩,
   ⟨["batak", "batk"],
    ["7lG1ZID"]⟩,
   ⟨["bengali", "beng"],
    ["qYA1sUBRB1ADBHCBCVBGBADDCICBCDIAEBBECY55HABACBBAIAIACAEACC12aFA"]⟩,
   ⟨["bhaiksuki", "bhks"],
    ["25oIIB1SBNK1C"]⟩,
   ⟨["bopomofo", "bopo"],
    ["rJABCNAQBcbXCEJBMKDCAGA7NAJ1Q4I1F1jxTBaWE"]⟩,
   ⟨["brahmi", "brah"],
    ["22eE2ZE1JJA"]⟩,
   ⟨["braille", "brai"],
    ["axW9V"]⟩,
   ⟨["buginese", "bugi"],
    ["74A1BCB13aTA"]⟩,
   ⟨["buhid", "buhd"],
    ["6cNBJT"]⟩,
   ⟨["canadianaboriginal", "cans"],
    ["5gYoPlO2R1yhQP"]⟩,
   ⟨["carian", "cari"],
    ["7BA8nMACA3sDA1m3Q1W"]⟩,
   ⟨["caucasianalbanian", "aghb"],
    ["tSA1SA1SA1yiN1ZLA"]⟩,
   ⟨["chakma", "cakm"],
    ["2pMJ1qEJ1y7Q2ABR"]⟩,
   ⟨["cham"],
    ["1ahW2CJNCJCD"]⟩,
   ⟨["cherokee", "cher"],
    ["tOCBAGBWBLB4hU3HCF15fE3B"]⟩,
   ⟨["chorasmian", "chrs"],
    ["22bC1B"]⟩,
   ⟨["common", "zyyy"],
    ["A2M1AF1A1UBLBBBEXA1FAhHCBJBADABIBABFFECT4WAGABAoNA8HAjWA1gUAfPD4fBLC1GB1EBJBBBGBKDKBOR1G",
     "2L1LBCCFB1ABQ1PCEpPWKVzR9WoDC1FB4AjSWBXCJBDBABZgCADANANAVAkJX1FA1XOMD6FJF3R1FA71O2LocQZ3",
     "YC11OAOBmlSJWUCLBSBD5RAB1F1AF1AF4XGBGKEfMM1Z1S1j9B9PGgT6A4L2I9LK1MC2JDQIBH1DE2I8FTMTM3I1",
     "BG5F3GB2SBBCACBCDBLBABGB2MBDCHBGB1BBDBEBADGBdBCbFC1X5lH2P2Y2IrE1RE3VMOCOBOB1KK6R2EZBBN1R",
     "EIXF5Y11VEQDMD4OE3QGLEAPLE2DIJG1NI1DCLEB2KdBMNCMDJF2DHOCKGIH5QB3XndbBA1E3R"]⟩,
   ⟨["coptic", "copt", "qaac"],
    ["7BAmMADBBA4EB4ENb3K4LFGaTA1m7C1B"]⟩,
   ⟨["cuneiform", "xsux"],
    ["26rSzL3Y4GBEL7N"]⟩,
   ⟨["cypriot", "cprt"],
    ["1yaMCE1SDI1uMFCAB1RBBDACA"]⟩,
   ⟨["cyprominoan", "cpmn"],
    ["1yaMBcqK3U"]⟩,
   ⟨["cyrillic", "cyrl"],
    ["qYA2PCBABABACAFA9EbR6dOK6EA2YA4XA4cP1F2PAwtK3RnyCB1ptG2J1HA"]⟩,
   ⟨["deseret", "dsrt"],
    ["1z4A3B"]⟩,
   ⟨["devanagari", "deva"],
    ["qYA1pR3EC1Q5aE1MBB13AA10zRJ6K1Fv6MJ"]⟩,
   ⟨["divesakuru", "diak"],
    ["24uUGCACHBBB1DBBCLJJ"]⟩,
   ⟨["dogra", "dogr"],
    ["2kML17fCJukO2H"]⟩,
   ⟨["duployan", "dupl"],
    ["7BAmTBBAYBbsHA30sL4CFMDIHJCH"]⟩,
   ⟨["egyptianhieroglyphs", "egyp"],
    ["2b5G16RK49Q"]⟩,
   ⟨["elbasan", "elba"],
    ["7BAmRA1ykC1N"]⟩,
   ⟨["elymaic", "elym"],
    ["22cYW"]⟩,
   ⟨["ethiopic", "ethi"],
    ["uCA43D2UBDCGBABDC1OBDC1GBDCGBABDCOB2EBDC2OC1FDZ73AWJGBGBGBGBGBGBGBGy8CFCFCFJGBG2emFGBDBB",
     "BO"]⟩,
   ⟨["garay", "gara"],
    ["1nOAOADA1zyU1LD1CIB"]⟩,
   ⟨["georgian", "geor"],
    ["7BA1bLA31E1LBAFAC1V35W1QCCzMA3gN1LBAFA9ZA"]⟩,
   ⟨["glagolitic", "glag"],
    ["7BAmPABAeSACA9XA34RA47IA36R3RiPAwvFA2drKGBQCGBBBE"]⟩,
   ⟨["gothic", "goth"],
    ["7BAmQBCA1OA1y0O1A"]⟩,
   ⟨["grantha", "gran"],
    ["2jTBRBoQN4mAABB1ECDB13AA1u7JDBHCBCVBGBBBEBJCBCCCAGAFGCGDE3dRBBA"]⟩,
   ⟨["greek", "grek"],
    ["7BAmMBCABABAKA1UACA1QHCDBAEABABCBABTB2KOP6vQE1YEEE3GCcGVCFC1LCFCHBABABAB1EC2ABOBNCFBSCCB",
     "I3QA7SA11tEAnhI3ARA1kzR2R"]⟩,
   ⟨["gujarati", "gujr"],
    ["2jTBRBaXCBIBCBVBGBBBECJBCBCCAPDCLHG16zSJ"]⟩,
   ⟨["gunjalagondi", "gong"],
    ["7BA2dKB23hIFBBB1KBBBFHJ"]⟩,
   ⟨["gurmukhi", "guru"],
    ["2jTBRB5ZCBFEBCVBGBBBBBBCABEEBCCDAHDBAHQ174ZJ"]⟩,
   ⟨["gurungkhema", "gukh"],
    ["2kNA2lzE2F"]⟩,
   ⟨["hani", "han"],
    ["7BAciUZB3KM8F1APBCBMBMBMCAGI7FA5SP1G1LJA1W1N2E1WPL1ZA3KYKE3S1EB71N2MmfJ1wYHmfCeBC4BxRBaW",
     "EurOBMBr7AR8fYB3qS19nB1G4fTG8NC65PO7zKPnX2mWkV1lY59YF4hF"]⟩,
   ⟨["hangul", "hang"],
    ["4nK9V87LCEJBMOCGA7NA2B3P4J1E2N1EwiN1CoTbxRMWE1WagZBaWE2G1EDFCFCFCC"]⟩,
   ⟨["hanifirohingya", "rohg"],
    ["1nOAOADA1GA5RA1zpJ1NIJ"]⟩,
   ⟨["hanunoo", "hano"],
    ["6bSW"]⟩,
   ⟨["hatran", "hatr"],
    ["20gASBBFE"]⟩,
   ⟨["hebrew", "hebr"],
    ["tVBoY2CI1AEF1v1WZBEBABBBBBJ"]⟩,
   ⟨["hiragana", "hira"],
    ["d4RCEJBMQFBAEBD3HCH3MB1k5GBaWEKA1TB1c8RbASA1DChoVA"]⟩,
   ⟨["imperialaramaic", "armi"],
    ["209WVBI"]⟩,
   ⟨["inherited", "qaai", "zinh"],
    ["uDACABLBBDGCACPBBBRBEBD1mMB4qX1EtB2BBABEkEB7M1F1ogQPQN11NA1k2O1TCWkYCRHCG1EDnp5I9F"]⟩,
   ⟨["inscriptionalpahlavi", "phli"],
    ["214QSFH"]⟩,
   ⟨["inscriptionalparthian", "prti"],
    ["213KVCH"]⟩,
   ⟨["javanese", "java"],
    ["1acY2ZBKEB"]⟩,
   ⟨["kaithi", "kthi"],
    ["2kOJa1XAxdEJsiS2OKA"]⟩,
   ⟨["kannada", "knda"],
    ["2jTBRBuOMBCBWBJBECIBCBDHBGBBDCJBC4cEABBGAXABA122XF"]⟩,
   ⟨["katakana", "kana"],
    ["tTA1DAc9TCEJBMQFBAEB3NDD3R9GP8A1UB3J1jiBBaW2K1c8ADBGBBBAbBC1YAOD"]⟩,
   ⟨["kawi"],
    ["26hWQB1OD1C"]⟩,
   ⟨["kayahli", "kali"],
    ["1a8A1V"]⟩,
   ⟨["kharoshthi", "khar"],
    ["20rCDBBFHBCB1CCCEJHI"]⟩,
   ⟨["khitansmallscript", "kits"],
    ["2smIA7eXiB1PA"]⟩,
   ⟨["khmer", "khmr"],
    ["6fK3PCJGJiS1F"]⟩,
   ⟨["khojki", "khoj"],
    ["2zIJ170IJsxMRB1U"]⟩,
   ⟨["khudawadi", "sind"],
    ["2kMB17fMJt4G2GFJ"]⟩,
   ⟨["kiratrai", "krai"],
    ["2rwI2F"]⟩,
   ⟨["laoo", "lao"],
    ["3yVBBABEBXBABWCEBABGBJCD"]⟩,
   ⟨["latin", "latn"],
    ["2NZGZ1VAMACAFWB1EBhGDAKABCBAJABAGE1BOBBBAMACCHBBB1MAFAEMaRB1bEB23KA3aI1LG1WFDFMB2R2FAH9V",
     "bRA2NANAQM3FA2FBGA1BAR1O2yT1FfRAx2MH1A3XD2OCBBABHVNbQAjT1QBIBDlrQG14KZGZ28FFB1PBI1mvP1EG",
     "F"]⟩,
   ⟨["lepcha", "lepc"],
    ["7nS2DDODC"]⟩,
   ⟨["limbu", "limb"],
    ["2kNA49Q1EBLELEADL"]⟩,
   ⟨["lineara", "lina"],
    ["1yaT1S1bGbYJVKH"]⟩,
   ⟨["linearb", "linb"],
    ["1y0QLBZBSBBBOCN1I4SFCE1SDI"]⟩,
   ⟨["lisu"],
    ["qYAQAcdKBvxS1VxkAA"]⟩,
   ⟨["lycian", "lyci"],
    ["8uOA1puR1C"]⟩,
   ⟨["lydian", "lydi"],
    ["7BAcfTA1nvQZFA"]⟩,
   ⟨["mahajani", "mahj"],
    ["7BA2dKL17fCJsqS1M"]⟩,
   ⟨["makasar", "maka"],
    ["26gQY"]⟩,
   ⟨["malayalam", "mlym"],
    ["2jTBRBzMMBCB1YBCBFEPCZ47EAXA122ZC"]⟩,
   ⟨["mandaic", "mand"],
    ["1pOAjR1BCA"]⟩,
   ⟨["manichaean", "mani"],
    ["1pOA1z8X1MEL"]⟩,
   ⟨["marchen", "marc"],
    ["25sQ1FCVBN"]⟩,
   ⟨["masaramgondi", "gonm"],
    ["2kMB23dQGBBB1RDABBBIIJ"]⟩,
   ⟨["medefaidrin", "medf"],
    ["2s6E3M"]⟩,
   ⟨["meeteimayek", "mtei"],
    ["1aqMW7T1TCJ"]⟩,
   ⟨["mendekikakui", "mend"],
    ["3pgY7OCP"]⟩,
   ⟨["meroiticcursive", "merc"],
    ["20nKXETC1T"]⟩,
   ⟨["meroitichieroglyphs", "mero"],
    ["8uRA1rrM1F"]⟩,
   ⟨["miao", "plrd"],
    ["2sdO2WE2EHQ"]⟩,
   ⟨["modi"],
    ["1a0AJu0W2QLJ"]⟩,
   ⟨["mongolian", "mong"],
    ["6kIZG3KH1Q22AA4bTBFD1qzWM"]⟩,
   ⟨["mroo", "mro"],
    ["2r2U1EBJEB"]⟩,
   ⟨["multani", "mult"],
    ["2uKJ208AGBABDBOBK"]⟩,
   ⟨["myanmar", "mymr"],
    ["4dO6D15qCA6V1E3T1FtmMT"]⟩,
   ⟨["nabataean", "nbat"],
    ["20cI1EII"]⟩,
   ⟨["nagmundari", "nagm"],
    ["3olO1P"]⟩,
   ⟨["nandinagari", "nand"],
    ["2kMByMJ4dHAIAHA122RFv0SHC1TCK"]⟩,
   ⟨["newtailue", "talu"],
    ["6zC1REZGKDB"]⟩,
   ⟨["newa"],
    ["23hO3NBE"]⟩,
   ⟨["nkoo", "nko"],
    ["1nOAOADAgA2GCC1v2SB"]⟩,
   ⟨["nushu", "nshu"],
    ["2smFAhxMfF"]⟩,
   ⟨["nyiakengpuachuehmong", "hmnp"],
    ["3nkA1SDNCJEB"]⟩,
   ⟨["ogham", "ogam"],
    ["65O1C"]⟩,
   ⟨["olchiki", "olck"],
    ["7qU1V"]⟩,
   ⟨["olonal", "onao"],
    ["2kMB3maW1QEA"]⟩,
   ⟨["oldhungarian", "hung"],
    ["8uOACA3sDAPA1osG1YN1YHF"]⟩,
   ⟨["olditalic", "ital"],
    ["1yuE1JJC"]⟩,
   ⟨["oldnortharabian", "narb"],
    ["20wA1F"]⟩,
   ⟨["oldpermic", "perm"],
    ["7BAmMAFCKAeDA1xoU1Q"]⟩,
   ⟨["oldpersian", "xpeo"],
    ["1z0I1JEN"]⟩,
   ⟨["oldsogdian", "sogo"],
    ["224I1N"]⟩,
   ⟨["oldsoutharabian", "sarb"],
    ["20uU1F"]⟩,
   ⟨["oldturkic", "orkh"],
    ["8uOA3sFA1onZ2U"]⟩,
   ⟨["olduyghur", "ougr"],
    ["1pOA1zaVA18FZ"]⟩,
   ⟨["oriya", "orya"],
    ["2jTBRBfVCBHCBCVBGBBBECICBCCHCEBBECR4rEAXA"]⟩,
   ⟨["osage", "osge"],
    ["tPACAGA2YA1ydV1JE1J"]⟩,
   ⟨["osmanya", "osma"],
    ["1z8Y1DCJ"]⟩,
   ⟨["pahawhhmong", "hmng"],
    ["2raE2RKJBGBUFS"]⟩,
   ⟨["palmyrene", "palm"],
    ["20bC1F"]⟩,
   ⟨["paucinhau", "pauc"],
    ["25cA2E"]⟩,
   ⟨["phagspa", "phag"],
    ["6kKBBA28JA4bUAwvX2D"]⟩,
   ⟨["phoenician", "phnx"],
    ["20hG1BDA"]⟩,
   ⟨["psalterpahlavi", "phlp"],
    ["1pOA1zgHRHDMG"]⟩,
   ⟨["rejang", "rjng"],
    ["1a9W1JLA"]⟩,
   ⟨["runic", "runr"],
    ["66U3K"]⟩,
   ⟨["samaritan", "samr"],
    ["26U1TCOadQA"]⟩,
   ⟨["saurashtra", "saur"],
    ["1a3C2RIL"]⟩,
   ⟨["sharada", "shrd"],
    ["2jTA5cFABACBCA123RFCAssP3R"]⟩,
   ⟨["shavian", "shaw"],
    ["7BA1z0A1V"]⟩,
   ⟨["siddham", "sidd"],
    ["23wI2BC1L"]⟩,
   ⟨["signwriting", "sgnw"],
    ["3l3KpBPEBO"]⟩,
   ⟨["sinhala", "sinh"],
    ["2kMB14LCBRDXBIBACGDAEFBABHGJCC43PA1uzQT"]⟩,
   ⟨["sogdian", "sogd"],
    ["1pOA20gP1P"]⟩,
   ⟨["sorasompeng", "sora"],
    ["22mEYHJ"]⟩,
   ⟨["soyombo", "soyo"],
    ["257S3E"]⟩,
   ⟨["sundanese", "sund"],
    ["7iU2L9WH"]⟩,
   ⟨["sunuwar", "sunu"],
    ["tOBBAJACA1CADA24qK1HOJ"]⟩,
   ⟨["sylotinagri", "sylo"],
    ["2kMB4YJ178I1S"]⟩,
   ⟨["syriac", "syrc"],
    ["tRBCBBAVACCHBBAsDAOBCA1GAKK1AA5NNB2HCCaMK5wFABA"]⟩,
   ⟨["tagalog", "tglg"],
    ["6aMVJAVB"]⟩,
   ⟨["tagbanwa", "tagb"],
    ["6cNB1PMBCBB"]⟩,
   ⟨["taile", "tale"],
    ["tOBFBDA3lZJ2gW1DCE"]⟩,
   ⟨["taitham", "lana"],
    ["75G2KB1CCKGJGN"]⟩,
   ⟨["taiviet", "tavt"],
    ["1amU2OYE"]⟩,
   ⟨["takri", "takr"],
    ["2kMB17fMJu5U2FGJ"]⟩,
   ⟨["tamil", "taml"],
    ["2jTBRBkUBBFDCBDDBBABBDBDCDLEEDCBDCAGAOU4mDA12bKAt0FABA2DB3fF1XNA"]⟩,
   ⟨["tangsa", "tnsa"],
    ["2r4Q3ABJ"]⟩,
   ⟨["tangut", "tang"],
    ["d4APjBA2eyMA1F6jZItNjSI"]⟩,
   ⟨["telugu", "telu"],
    ["2jTBRBpQMBCBWBPCIBCBDHBBCCACDCJHI4hAAXA"]⟩,
   ⟨["thaana", "thaa"],
    ["1nOAOBCA2MJaS1X1vcQAKA"]⟩,
   ⟨["thai"],
    ["qYA1AA1RA1TA2yL2FF1B"]⟩,
   ⟨["tibetan", "tibt"],
    ["43S2TB1JE1MB1JBOBGEB8sVD"]⟩,
   ⟨["tifinagh", "tfng"],
    ["tQABACABAbjA2DHBOA"]⟩,
   ⟨["tirhuta", "tirh"],
    ["2jTBRB5cMA122ZJtmC2TIJ"]⟩,
   ⟨["todhri", "todr"],
    ["tPACACAJABA2WA1yoB1Z"]⟩,
   ⟨["toto"],
    ["qYA3n8L1E"]⟩,
   ⟨["tulutigalari", "tutg"],
    ["3jAJ4dQABA122XF7FAt5EJBACAB1LBJBACABDBJBBIB"]⟩,
   ⟨["ugaritic", "ugar"],
    ["1yzC1DBA"]⟩,
   ⟨["vaii", "vai"],
    ["194QbN"]⟩,
   ⟨["vithkuqi", "vith"],
    ["1ziEKBOBGBBBKBOBGBB"]⟩,
   ⟨["wancho", "wcho"],
    ["3o1G2FFA"]⟩,
   ⟨["warangciti", "wara"],
    ["24rC3EMA"]⟩,
   ⟨["yezidi", "yezi"],
    ["1nOAOADA2MJ208G1PBCCB"]⟩,
   ⟨["yiii", "yi"],
    ["d4RBFJCH8PAudC18UD2CosCE"]⟩,
   ⟨["zanabazarsquare", "zanb"],
    ["254Q2T"]⟩]

end Pattern

end FieldCalc
